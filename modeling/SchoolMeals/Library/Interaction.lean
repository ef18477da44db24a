/-
This file is a small library of interactive programs. A program is a tree: it
has finished with a result, or its behaviour is no longer defined, or it makes a
call and goes on according to the answer. What a call does is not part of the
program. One interpretation runs a program alone, as a function on a state; the
other runs a family of programs side by side over a shared state, one call at a
time and in any order.

The rules for a single run follow the shape of the program. For the family, a
run is an interleaving of events; read off one program of the family, the events
are a path of that program alone. A run can be taken apart at any event, and an
invariant that every event keeps holds in every state the family reaches. A
schedule, which only says whose turn it is, computes a run.
-/

import Mathlib.Logic.Function.Basic

namespace Interaction

/-- A program over calls whose answers may differ in type. -/
inductive Program (Call : Type) (Answer : Call → Type) (Result : Type) : Type where
  | finished (result : Result)
  | undefined
  | call (request : Call) (next : Answer request → Program Call Answer Result)

namespace Program

variable {Call : Type} {Answer : Call → Type} {Result Other : Type}

/-- Run a program and continue with its result. -/
def bind (program : Program Call Answer Result) (next : Result → Program Call Answer Other) :
    Program Call Answer Other :=
  match program with
  | .finished result => next result
  | .undefined => .undefined
  | .call request rest => .call request fun answer => (rest answer).bind next

instance : Monad (Program Call Answer) where
  pure := .finished
  bind := bind

@[simp] theorem pure_eq (result : Result) :
    (pure result : Program Call Answer Result) = .finished result := rfl

@[simp] theorem finished_bind (result : Result) (next : Result → Program Call Answer Other) :
    (Program.finished result >>= next) = next result := rfl

@[simp] theorem undefined_bind (next : Result → Program Call Answer Other) :
    ((Program.undefined : Program Call Answer Result) >>= next) = .undefined := rfl

@[simp] theorem call_bind (request : Call) (rest : Answer request → Program Call Answer Result)
    (next : Result → Program Call Answer Other) :
    (Program.call request rest >>= next) = .call request fun answer => rest answer >>= next := rfl

/-- Sequences can be regrouped. -/
theorem bind_assoc {Last : Type} (program : Program Call Answer Result)
    (next : Result → Program Call Answer Other) (last : Other → Program Call Answer Last) :
    ((program >>= next) >>= last) = program >>= fun result => next result >>= last := by
  induction program with
  | finished result => rfl
  | undefined => rfl
  | call request rest inductionHypothesis =>
    exact congrArg (call request) (funext fun answer => inductionHypothesis answer)

/-- A single call. -/
def ask (request : Call) : Program Call Answer (Answer request) := .call request .finished

@[simp] theorem ask_bind (request : Call) (next : Answer request → Program Call Answer Other) :
    (ask request >>= next) = .call request next := rfl

/-- A call together with the answer it got. -/
structure Exchange (Call : Type) (Answer : Call → Type) where
  request : Call
  answer : Answer request

/-! ### One program alone -/

section Run

variable {State : Type} (handler : (request : Call) → State → Answer request × State)

/-- Run a program against a handler of its calls. The result is missing when the program's
behaviour became undefined. -/
def run : Program Call Answer Result → State → Option Result × State
  | .finished result, state => (some result, state)
  | .undefined, state => (none, state)
  | .call request next, state => run (next (handler request state).1) (handler request state).2

@[simp] theorem run_finished (result : Result) (state : State) :
    run handler (.finished result) state = (some result, state) := rfl

@[simp] theorem run_undefined (state : State) :
    run handler (.undefined : Program Call Answer Result) state = (none, state) := rfl

@[simp] theorem run_call (request : Call) (next : Answer request → Program Call Answer Result)
    (state : State) :
    run handler (.call request next) state =
      run handler (next (handler request state).1) (handler request state).2 := rfl

/-- A sequence runs its second part from the result and the state of the first. -/
theorem run_bind (program : Program Call Answer Result)
    (next : Result → Program Call Answer Other) (state : State) :
    run handler (program >>= next) state =
      match run handler program state with
      | (some result, after) => run handler (next result) after
      | (none, after) => (none, after) := by
  induction program generalizing state with
  | finished result => rfl
  | undefined => rfl
  | call request rest inductionHypothesis => exact inductionHypothesis _ _

theorem run_bind_of_some {program : Program Call Answer Result} {state after : State}
    {result : Result} (next : Result → Program Call Answer Other)
    (first : run handler program state = (some result, after)) :
    run handler (program >>= next) state = run handler (next result) after := by
  rw [run_bind, first]

theorem run_bind_of_none {program : Program Call Answer Result} {state after : State}
    (next : Result → Program Call Answer Other)
    (first : run handler program state = (none, after)) :
    run handler (program >>= next) state = (none, after) := by
  rw [run_bind, first]

/-- A function of the result changes no state. -/
theorem run_map (program : Program Call Answer Result) (function : Result → Other)
    (state : State) :
    run handler (program >>= fun result => .finished (function result)) state =
      ((run handler program state).1.map function, (run handler program state).2) := by
  rw [run_bind]
  cases run handler program state with
  | mk result after => cases result <;> rfl

/-- A run looks the same through any view of the states that its calls respect. -/
theorem run_view {Other : Type} {handler : (request : Call) → State → Answer request × State}
    {other : (request : Call) → Other → Answer request × Other} (view : State → Other)
    (same : ∀ request state, other request (view state) =
      ((handler request state).1, view (handler request state).2))
    (program : Program Call Answer Result) (state : State) :
    run other program (view state) =
      ((run handler program state).1, view (run handler program state).2) := by
  induction program generalizing state with
  | finished result => rfl
  | undefined => rfl
  | call request next inductionHypothesis =>
    rw [run_call, run_call, same]
    exact inductionHypothesis _ _

/-- The calls a program makes in a run with their answers, in order. -/
def exchanges : Program Call Answer Result → State → List (Exchange Call Answer)
  | .finished _, _ => []
  | .undefined, _ => []
  | .call request next, state =>
    ⟨request, (handler request state).1⟩ ::
      exchanges (next (handler request state).1) (handler request state).2

@[simp] theorem exchanges_finished (result : Result) (state : State) :
    exchanges handler (.finished result : Program Call Answer Result) state = [] := rfl

@[simp] theorem exchanges_call (request : Call)
    (next : Answer request → Program Call Answer Result) (state : State) :
    exchanges handler (.call request next) state =
      ⟨request, (handler request state).1⟩ ::
        exchanges handler (next (handler request state).1) (handler request state).2 := rfl

/-- A sequence whose first part ends makes the calls of both parts. -/
theorem exchanges_bind_of_some {program : Program Call Answer Result} {state after : State}
    {result : Result} (next : Result → Program Call Answer Other)
    (first : run handler program state = (some result, after)) :
    exchanges handler (program >>= next) state =
      exchanges handler program state ++ exchanges handler (next result) after := by
  induction program generalizing state with
  | finished other =>
    obtain ⟨same, rfl⟩ := Prod.mk.inj first
    rw [Option.some.inj same]
    rfl
  | undefined => cases first
  | call request rest inductionHypothesis =>
    exact congrArg (_ :: ·) (inductionHypothesis _ first)

end Run

/-! ### The paths of a program -/

/-- The program can make these calls, get these answers and be left with the last program. -/
inductive Path : Program Call Answer Result → List (Exchange Call Answer) →
    Program Call Answer Result → Prop where
  | nil (program : Program Call Answer Result) : Path program [] program
  | cons (request : Call) (next : Answer request → Program Call Answer Result)
      (answer : Answer request) (rest : List (Exchange Call Answer))
      (last : Program Call Answer Result) (tail : Path (next answer) rest last) :
      Path (.call request next) (⟨request, answer⟩ :: rest) last

theorem path_finished {result : Result} {path : List (Exchange Call Answer)}
    {last : Program Call Answer Result} (walked : Path (.finished result) path last) :
    path = [] := by
  cases walked
  rfl

/-- A path of a program that makes a call is empty, or begins with that call. -/
theorem path_call {request : Call} {next : Answer request → Program Call Answer Result}
    {path : List (Exchange Call Answer)} {last : Program Call Answer Result}
    (walked : Path (.call request next) path last) :
    path = [] ∨ ∃ answer rest, path = ⟨request, answer⟩ :: rest ∧ Path (next answer) rest last := by
  cases walked with
  | nil => exact Or.inl rfl
  | cons _ _ answer rest _ tail => exact Or.inr ⟨answer, rest, rfl, tail⟩

/-- A run to a result walks a path. -/
theorem path_of_run {State : Type} (handler : (request : Call) → State → Answer request × State)
    {program : Program Call Answer Result} {state after : State} {result : Result}
    (ran : run handler program state = (some result, after)) :
    Path program (exchanges handler program state) (.finished result) := by
  induction program generalizing state with
  | finished other =>
    rw [Option.some.inj (Prod.mk.inj ran).1]
    exact .nil _
  | undefined => cases ran
  | call request next inductionHypothesis =>
    exact .cons request next _ _ _ (inductionHypothesis _ ran)

/-- A program returns a result, whatever its calls do, when no path leads where its behaviour is
not defined. -/
theorem isSome_run {State : Type} (handler : (request : Call) → State → Answer request × State)
    {program : Program Call Answer Result}
    (defined : ∀ path last, Path program path last → last ≠ .undefined) (state : State) :
    (run handler program state).1.isSome = true := by
  induction program generalizing state with
  | finished result => rfl
  | undefined => exact absurd rfl (defined [] _ (.nil _))
  | call request next inductionHypothesis =>
    refine inductionHypothesis _ (fun path last tail => ?_) _
    exact defined _ last (.cons _ _ _ path last tail)

/-- A path that ends a program which makes a call begins with that call. -/
theorem path_call_finished {request : Call} {next : Answer request → Program Call Answer Result}
    {path : List (Exchange Call Answer)} {result : Result}
    (walked : Path (.call request next) path (.finished result)) :
    ∃ answer rest, path = ⟨request, answer⟩ :: rest ∧
      Path (next answer) rest (.finished result) := by
  cases walked with
  | cons _ _ answer rest _ tail => exact ⟨answer, rest, rfl, tail⟩

theorem result_of_path_finished {result last : Result} {path : List (Exchange Call Answer)}
    (walked : Path (.finished result : Program Call Answer Result) path (.finished last)) :
    path = [] ∧ result = last := by
  cases walked
  exact ⟨rfl, rfl⟩

/-- A path that ends a sequence ends its first part on the way. -/
theorem Path.of_bind {program : Program Call Answer Result}
    {next : Result → Program Call Answer Other} {path : List (Exchange Call Answer)}
    {last : Other} (walked : Path (program >>= next) path (.finished last)) :
    ∃ result first second, path = first ++ second ∧ Path program first (.finished result) ∧
      Path (next result) second (.finished last) := by
  induction program generalizing path with
  | finished result => exact ⟨result, [], path, rfl, .nil _, walked⟩
  | undefined => cases walked
  | call request rest inductionHypothesis =>
    obtain ⟨answer, later, rfl, tail⟩ := path_call_finished walked
    obtain ⟨result, first, second, rfl, opening, ending⟩ := inductionHypothesis answer tail
    exact ⟨result, ⟨request, answer⟩ :: first, second, rfl, .cons _ _ _ _ _ opening, ending⟩

/-- A path of a sequence is still in its first part, or has ended it on the way. -/
theorem Path.bind_cases {program : Program Call Answer Result}
    {next : Result → Program Call Answer Other} {path : List (Exchange Call Answer)}
    {last : Program Call Answer Other} (walked : Path (program >>= next) path last) :
    (∃ middle, Path program path middle ∧ last = (middle >>= next)) ∨
      ∃ result first second, path = first ++ second ∧ Path program first (.finished result) ∧
        Path (next result) second last := by
  induction program generalizing path with
  | finished result => exact Or.inr ⟨result, [], path, rfl, .nil _, walked⟩
  | undefined =>
    cases walked
    exact Or.inl ⟨.undefined, .nil _, rfl⟩
  | call request rest inductionHypothesis =>
    rcases path_call walked with rfl | ⟨answer, later, rfl, tail⟩
    · cases walked
      exact Or.inl ⟨.call request rest, .nil _, rfl⟩
    · rcases inductionHypothesis answer tail with ⟨middle, opening, rfl⟩ |
        ⟨result, first, second, rfl, opening, ending⟩
      · exact Or.inl ⟨middle, .cons _ _ _ _ _ opening, rfl⟩
      · exact Or.inr ⟨result, ⟨request, answer⟩ :: first, second, rfl,
          .cons _ _ _ _ _ opening, ending⟩

theorem Path.snoc {program : Program Call Answer Result} {path : List (Exchange Call Answer)}
    {request : Call} {next : Answer request → Program Call Answer Result}
    (walked : Path program path (.call request next)) (answer : Answer request) :
    Path program (path ++ [⟨request, answer⟩]) (next answer) := by
  generalize equal : Program.call request next = last at walked
  induction walked with
  | nil program =>
    subst equal
    exact .cons request next answer [] _ (.nil _)
  | cons first following given rest last tail inductionHypothesis =>
    exact .cons first following given _ _ (inductionHypothesis equal)

end Program

/-! ### A family of programs over a shared state -/

section Family

variable {Index Call : Type} {Answer : Call → Type} {Result State : Type}

/-- The programs of a family and the state they share. -/
structure Family (Index Call : Type) (Answer : Call → Type) (Result State : Type) where
  programs : Index → Program Call Answer Result
  shared : State

/-- One call of one program of the family. -/
structure Event (Index Call : Type) (Answer : Call → Type) extends
    Program.Exchange Call Answer where
  index : Index

variable [DecidableEq Index]
  (answers : Index → (request : Call) → State → Answer request → State → Prop)

/-- One step: some program of the family makes its next call, whose effect is atomic. -/
inductive Step : Family Index Call Answer Result State → Event Index Call Answer →
    Family Index Call Answer Result State → Prop where
  | call (family : Family Index Call Answer Result State) (index : Index) (request : Call)
      (next : Answer request → Program Call Answer Result) (answer : Answer request)
      (after : State) (pending : family.programs index = .call request next)
      (answered : answers index request family.shared answer after) :
      Step family ⟨⟨request, answer⟩, index⟩
        ⟨Function.update family.programs index (next answer), after⟩

/-- A run of the family with its events, oldest first. -/
inductive Runs : Family Index Call Answer Result State → List (Event Index Call Answer) →
    Family Index Call Answer Result State → Prop where
  | nil (family : Family Index Call Answer Result State) : Runs family [] family
  | snoc {start middle last : Family Index Call Answer Result State}
      {events : List (Event Index Call Answer)} {event : Event Index Call Answer}
      (before : Runs start events middle) (step : Step answers middle event last) :
      Runs start (events ++ [event]) last

variable {answers}

/-- The events of one program of the family. -/
def eventsOf (index : Index) (events : List (Event Index Call Answer)) :
    List (Program.Exchange Call Answer) :=
  (events.filter (·.index = index)).map Event.toExchange

theorem eventsOf_append (index : Index) (first second : List (Event Index Call Answer)) :
    eventsOf index (first ++ second) = eventsOf index first ++ eventsOf index second := by
  simp [eventsOf]

/-- Read off one program, a run of the family is a path of that program. -/
theorem Runs.path {start last : Family Index Call Answer Result State}
    {events : List (Event Index Call Answer)} (runs : Runs answers start events last)
    (index : Index) :
    Program.Path (start.programs index) (eventsOf index events) (last.programs index) := by
  induction runs with
  | nil => exact .nil _
  | snoc before step inductionHypothesis =>
    cases step with
    | call other request next answer after pending answered =>
      rw [eventsOf_append]
      by_cases same : other = index
      · subst same
        rw [pending] at inductionHypothesis
        simpa [eventsOf] using inductionHypothesis.snoc answer
      · simpa [eventsOf, same, Function.update_of_ne (Ne.symm same)] using inductionHypothesis

/-- Every event is on the path of its program. -/
theorem mem_eventsOf {events : List (Event Index Call Answer)} {event : Event Index Call Answer}
    (member : event ∈ events) : event.toExchange ∈ eventsOf event.index events :=
  List.mem_map_of_mem (List.mem_filter.mpr ⟨member, decide_eq_true rfl⟩)

/-- An exchange on the path of a program is an event of that program. -/
theorem event_of_mem_eventsOf {events : List (Event Index Call Answer)} {index : Index}
    {exchange : Program.Exchange Call Answer} (member : exchange ∈ eventsOf index events) :
    ⟨exchange, index⟩ ∈ events := by
  obtain ⟨event, kept, rfl⟩ := List.mem_map.mp member
  obtain ⟨eventMember, same⟩ := List.mem_filter.mp kept
  rw [← of_decide_eq_true same]
  exact eventMember

/-- Every event was answered in some state. -/
theorem Runs.answered {start last : Family Index Call Answer Result State}
    {events : List (Event Index Call Answer)} (runs : Runs answers start events last)
    {event : Event Index Call Answer} (member : event ∈ events) :
    ∃ before after, answers event.index event.request before event.answer after := by
  induction runs with
  | nil => cases member
  | snoc before step inductionHypothesis =>
    rcases List.mem_append.mp member with earlier | newest
    · exact inductionHypothesis earlier
    · rw [List.mem_singleton.mp newest]
      cases step with
      | call index request next answer after pending answered => exact ⟨_, _, answered⟩

/-- A run can be cut at any event. -/
theorem Runs.split {start last : Family Index Call Answer Result State}
    {first second : List (Event Index Call Answer)} {event : Event Index Call Answer}
    (runs : Runs answers start (first ++ event :: second) last) :
    ∃ before after, Runs answers start first before ∧ Step answers before event after ∧
      Runs answers after second last := by
  generalize equal : first ++ event :: second = events at runs
  induction runs generalizing second with
  | nil => exact absurd equal (by simp)
  | snoc before step inductionHypothesis =>
    rcases List.eq_nil_or_concat second with rfl | ⟨initial, newest, rfl⟩
    · obtain ⟨rfl, same⟩ := List.append_inj' equal rfl
      obtain rfl := List.singleton_inj.mp same
      exact ⟨_, _, before, step, .nil _⟩
    · rw [List.concat_eq_append, ← List.cons_append, ← List.append_assoc] at equal
      obtain ⟨rfl, same⟩ := List.append_inj' equal rfl
      obtain rfl := List.singleton_inj.mp same
      obtain ⟨middle, following, head, cut, tail⟩ := inductionHypothesis rfl
      rw [List.concat_eq_append]
      exact ⟨middle, following, head, cut, tail.snoc step⟩

/-- An invariant that every event keeps holds in every state the family reaches. -/
theorem Runs.invariant {start last : Family Index Call Answer Result State}
    {events : List (Event Index Call Answer)} (runs : Runs answers start events last)
    (invariant : State → Prop) (holds : invariant start.shared)
    (keeps : ∀ event ∈ events, ∀ before after, answers event.index event.request before
      event.answer after → invariant before → invariant after) :
    invariant last.shared := by
  induction runs with
  | nil => exact holds
  | snoc before step inductionHypothesis =>
    have earlier := inductionHypothesis
      fun event member => keeps event (List.mem_append_left _ member)
    cases step with
    | call index request next answer after pending answered =>
      exact keeps _ (List.mem_append_right _ (List.mem_singleton.mpr rfl)) _ _ answered earlier

/-- A run can begin with one more step. -/
theorem Runs.cons {start middle last : Family Index Call Answer Result State}
    {event : Event Index Call Answer} {events : List (Event Index Call Answer)}
    (step : Step answers start event middle) (runs : Runs answers middle events last) :
    Runs answers start (event :: events) last := by
  induction runs with
  | nil => exact (Runs.nil start).snoc step
  | snoc before newest inductionHypothesis => exact inductionHypothesis.snoc newest

/-! ### Schedules -/

section Schedule

variable (handler : Index → (request : Call) → State → Answer request × State)

/-- Let the programs with these indices make their next calls, one after the other. A program
that makes no more calls misses its turn. -/
def schedule : List Index → Family Index Call Answer Result State →
    List (Event Index Call Answer) × Family Index Call Answer Result State
  | [], family => ([], family)
  | index :: order, family =>
    match family.programs index with
    | .call request next =>
      let (answer, after) := handler index request family.shared
      let (events, last) :=
        schedule order ⟨Function.update family.programs index (next answer), after⟩
      (⟨⟨request, answer⟩, index⟩ :: events, last)
    | _ => schedule order family

/-- Every schedule computes a run. -/
theorem runs_schedule
    (handles : ∀ index request state,
      answers index request state (handler index request state).1 (handler index request state).2)
    (order : List Index) (family : Family Index Call Answer Result State) :
    Runs answers family (schedule handler order family).1 (schedule handler order family).2 := by
  induction order generalizing family with
  | nil => exact .nil family
  | cons index order inductionHypothesis =>
    rw [schedule]
    cases pending : family.programs index with
    | finished result => exact inductionHypothesis family
    | undefined => exact inductionHypothesis family
    | call request next =>
      exact .cons (.call family index request next _ _ pending (handles index request _))
        (inductionHypothesis _)

end Schedule

end Family

end Interaction
