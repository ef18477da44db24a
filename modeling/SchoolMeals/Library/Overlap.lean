/-
This file is a small library of jobs that overlap. Parties take up jobs, one at a
time each; a job is an interactive program over something of the party's own and
something that all of them share, and the calls of the parties mix in any order.
A job that shares at most one of its calls might as well be done in one go, at
the moment of that call: the run is one in which whole jobs follow each other,
each of them done between its beginning and its end.
-/

import SchoolMeals.Library.Footprint
import SchoolMeals.Library.Transition
import Mathlib.Data.List.Infix

namespace Overlap

open Interaction Transition

/-! ### Programs that keep to themselves -/

section Alone

variable {Call : Type} {Answer : Call → Type} {Result Own Shared : Type}
  (answer : (request : Call) → Own × Shared → Answer request × Own × Shared)

/-- The program comes to its result with what is its own. -/
inductive Alone : Program Call Answer Result → Own → Result → Own → Prop where
  | finished (result : Result) (own : Own) : Alone (.finished result) own result own
  | call {request : Call} {next : Answer request → Program Call Answer Result}
      {given : Answer request} {result : Result} {own middle last : Own}
      (apart : ∀ shared, answer request (own, shared) = (given, middle, shared))
      (rest : Alone (next given) middle result last) : Alone (.call request next) own result last

/-- The program shares at most one of its calls, and comes to a result behind it. -/
inductive Once : Program Call Answer Result → Own → Prop where
  | finished (result : Result) (own : Own) : Once (.finished result) own
  | apart {request : Call} {next : Answer request → Program Call Answer Result}
      {given : Answer request} {own middle : Own}
      (apart : ∀ shared, answer request (own, shared) = (given, middle, shared))
      (rest : Once (next given) middle) : Once (.call request next) own
  | shares {request : Call} {next : Answer request → Program Call Answer Result} {own : Own}
      (rest : ∀ shared, ∃ result last, Alone answer
        (next (answer request (own, shared)).1) (answer request (own, shared)).2.1 result last) :
      Once (.call request next) own

variable {answer}

theorem Alone.run {program : Program Call Answer Result} {own last : Own} {result : Result}
    (alone : Alone answer program own result last) (shared : Shared) :
    Program.run answer program (own, shared) = (some result, last, shared) := by
  induction alone with
  | finished result own => rfl
  | call apart rest inductionHypothesis =>
    rw [Program.run_call, apart]
    exact inductionHypothesis

/-- A program whose calls all keep to themselves does so. -/
theorem alone_of_within {allowed : Call → Prop}
    (apart : ∀ request, allowed request → ∀ own : Own, ∃ given middle, ∀ shared : Shared,
      answer request (own, shared) = (given, middle, shared))
    {program : Program Call Answer Result} (within : Within allowed program) (own : Own) :
    ∃ result last, Alone answer program own result last := by
  induction program generalizing own with
  | finished result => exact ⟨result, own, .finished result own⟩
  | undefined => exact within.elim
  | call request next inductionHypothesis =>
    obtain ⟨given, middle, same⟩ := apart request within.1 own
    obtain ⟨result, last, rest⟩ := inductionHypothesis given (within.2 given) middle
    exact ⟨result, last, .call same rest⟩

end Alone

/-! ### Parties and their jobs -/

/-- What the parties do: which programs do a job, what of a party they work with, what becomes of
the party, and how calls are answered. -/
structure Office (Party Job Call : Type) (Answer : Call → Type) (Result Own Shared : Type) where
  starts : Party → Job → Program Call Answer Result → Prop
  own : Party → Own
  ends : Party → Job → Result → Own → Party
  answer : Job → (request : Call) → Own × Shared → Answer request × Own × Shared

variable {Index Party Job Call : Type} {Answer : Call → Type} {Result Own Shared : Type}

/-- A party between two jobs, or within one. -/
inductive Phase (Party Job Call : Type) (Answer : Call → Type) (Result Own : Type) where
  | free (party : Party)
  | busy (party : Party) (job : Job) (own : Own) (rest : Program Call Answer Result)

structure State (Index Party Job Call : Type) (Answer : Call → Type) (Result Own Shared : Type)
    where
  phases : Index → Phase Party Job Call Answer Result Own
  shared : Shared

inductive Event (Index Job Result : Type) where
  | begins (index : Index) (job : Job)
  | calls (index : Index)
  | ends (index : Index) (job : Job) (result : Result)

/-- The parties with their jobs done one after the other. -/
structure Serial (Index Party Shared : Type) where
  parties : Index → Party
  shared : Shared

/-- A job that is done, with its result. -/
structure Done (Index Job Result : Type) where
  index : Index
  job : Job
  result : Result

variable [DecidableEq Index] (office : Office Party Job Call Answer Result Own Shared)

/-- The calls of all parties mix. -/
inductive Step : State Index Party Job Call Answer Result Own Shared → Event Index Job Result →
    State Index Party Job Call Answer Result Own Shared → Prop where
  | begins {state : State Index Party Job Call Answer Result Own Shared} {index : Index}
      {party : Party} {job : Job} {program : Program Call Answer Result}
      (free : state.phases index = .free party) (starts : office.starts party job program) :
      Step state (.begins index job)
        ⟨Function.update state.phases index (.busy party job (office.own party) program),
          state.shared⟩
  | calls {state : State Index Party Job Call Answer Result Own Shared} {index : Index}
      {party : Party} {job : Job} {own middle : Own} {after : Shared} {request : Call}
      {next : Answer request → Program Call Answer Result} {given : Answer request}
      (busy : state.phases index = .busy party job own (.call request next))
      (answered : office.answer job request (own, state.shared) = (given, middle, after)) :
      Step state (.calls index)
        ⟨Function.update state.phases index (.busy party job middle (next given)), after⟩
  | ends {state : State Index Party Job Call Answer Result Own Shared} {index : Index}
      {party : Party} {job : Job} {own : Own} {result : Result}
      (busy : state.phases index = .busy party job own (.finished result)) :
      Step state (.ends index job result)
        ⟨Function.update state.phases index (.free (office.ends party job result own)),
          state.shared⟩

/-- Whole jobs follow each other. -/
inductive SerialStep : Serial Index Party Shared → Done Index Job Result →
    Serial Index Party Shared → Prop where
  | job {serial : Serial Index Party Shared} {index : Index} {job : Job}
      {program : Program Call Answer Result} {result : Result} {last : Own} {after : Shared}
      (starts : office.starts (serial.parties index) job program)
      (ran : Program.run (office.answer job) program
        (office.own (serial.parties index), serial.shared) = (some result, last, after)) :
      SerialStep serial ⟨index, job, result⟩
        ⟨Function.update serial.parties index
          (office.ends (serial.parties index) job result last), after⟩

/-! ### What was begun, done and ended -/

def begunBy (index : Index) (events : List (Event Index Job Result)) : List Job :=
  events.filterMap fun
    | .begins other job => if other = index then some job else none
    | _ => none

def endedBy (index : Index) (events : List (Event Index Job Result)) : List (Job × Result) :=
  events.filterMap fun
    | .ends other job result => if other = index then some (job, result) else none
    | _ => none

def doneBy (index : Index) (done : List (Done Index Job Result)) : List (Job × Result) :=
  done.filterMap fun job => if job.index = index then some (job.job, job.result) else none

/-- What is noted beside the events of a run: the job that is done with an event, if any. -/
abbrev Notes (Index Job Result : Type) : Type :=
  List (Event Index Job Result × Option (Done Index Job Result))

/-- Each job is done between its beginning and its end: up to any event, a party has ended no more
than was done for it, and nothing was done that it had not begun. -/
def Between (notes : Notes Index Job Result) : Prop :=
  ∀ first, first <+: notes → ∀ index,
    endedBy index (first.map Prod.fst) <+: doneBy index (first.filterMap Prod.snd) ∧
      (doneBy index (first.filterMap Prod.snd)).map Prod.fst <+:
        begunBy index (first.map Prod.fst)

/-! ### How a run follows its jobs -/

/-- Where a party is, seen from the jobs done one after the other: it is free, or its job is still
to be done, or its job is done and what is left of it keeps to itself. -/
inductive Follows (party : Party) : Phase Party Job Call Answer Result Own →
    List (Job × Result) → List Job → Prop where
  | free : Follows party (.free party) [] []
  | before {job : Job} {own : Own} {program rest : Program Call Answer Result}
      (starts : office.starts party job program) (once : Once (office.answer job) rest own)
      (same : ∀ shared, Program.run (office.answer job) program (office.own party, shared) =
        Program.run (office.answer job) rest (own, shared)) :
      Follows party (.busy party job own rest) [] [job]
  | behind {earlier : Party} {job : Job} {own last : Own} {rest : Program Call Answer Result}
      {result : Result} (alone : Alone (office.answer job) rest own result last)
      (now : party = office.ends earlier job result last) :
      Follows party (.busy earlier job own rest) [(job, result)] []

/-- The run so far, and the jobs done so far. -/
structure Matches (state : State Index Party Job Call Answer Result Own Shared)
    (serial : Serial Index Party Shared) (events : List (Event Index Job Result))
    (done : List (Done Index Job Result)) : Prop where
  shared : state.shared = serial.shared
  follows : ∀ index, ∃ ahead waiting,
    Follows office (serial.parties index) (state.phases index) ahead waiting ∧
      doneBy index done = endedBy index events ++ ahead ∧
      begunBy index events = (doneBy index done).map Prod.fst ++ waiting

variable {office}

theorem Matches.between {state : State Index Party Job Call Answer Result Own Shared}
    {serial : Serial Index Party Shared} {events : List (Event Index Job Result)}
    {done : List (Done Index Job Result)} (agree : Matches office state serial events done)
    (index : Index) : endedBy index events <+: doneBy index done ∧
      (doneBy index done).map Prod.fst <+: begunBy index events := by
  obtain ⟨ahead, waiting, -, ended, begun⟩ := agree.follows index
  exact ⟨⟨ahead, ended.symm⟩, ⟨waiting, begun.symm⟩⟩

/-! ### What a step begins, ends and does -/

section Lists

variable (index other : Index) (job : Job) (result : Result)

theorem begunBy_append (first second : List (Event Index Job Result)) :
    begunBy index (first ++ second) = begunBy index first ++ begunBy index second :=
  List.filterMap_append

theorem endedBy_append (first second : List (Event Index Job Result)) :
    endedBy index (first ++ second) = endedBy index first ++ endedBy index second :=
  List.filterMap_append

theorem doneBy_append (first second : List (Done Index Job Result)) :
    doneBy index (first ++ second) = doneBy index first ++ doneBy index second :=
  List.filterMap_append

theorem begunBy_begins : begunBy other [(.begins index job : Event Index Job Result)] =
    if index = other then [job] else [] := by
  by_cases same : index = other <;> simp [begunBy, same]

theorem endedBy_ends : endedBy other [(.ends index job result : Event Index Job Result)] =
    if index = other then [(job, result)] else [] := by
  by_cases same : index = other <;> simp [endedBy, same]

theorem doneBy_singleton : doneBy other [⟨index, job, result⟩] =
    if index = other then [(job, result)] else [] := by
  by_cases same : index = other <;> simp [doneBy, same]

end Lists

section Steps

variable {state after : State Index Party Job Call Answer Result Own Shared}
  {serial : Serial Index Party Shared} {events : List (Event Index Job Result)}
  {done : List (Done Index Job Result)} {event : Event Index Job Result} {index : Index}
  {phase : Phase Party Job Call Answer Result Own}

/-- The event has nothing to do with other parties. -/
def Event.Only (index : Index) (event : Event Index Job Result) : Prop :=
  ∀ other, other ≠ index → endedBy other [event] = [] ∧ begunBy other [event] = []

/-- A step behind which the jobs done are those done before it, and at most one more. -/
def Followed (office : Office Party Job Call Answer Result Own Shared)
    (serial : Serial Index Party Shared) (events : List (Event Index Job Result))
    (done : List (Done Index Job Result)) (event : Event Index Job Result)
    (after : State Index Party Job Call Answer Result Own Shared) : Prop :=
  ∃ (more : Option (Done Index Job Result)) (next : Serial Index Party Shared),
    Runs (SerialStep office) serial more.toList next ∧
      Matches office after next (events ++ [event]) (done ++ more.toList)

/-- A step with which no job is done. -/
theorem Matches.stays (agree : Matches office state serial events done) (only : event.Only index)
    {ahead : List (Job × Result)} {waiting : List Job}
    (follows : Follows office (serial.parties index) phase ahead waiting)
    (ended : doneBy index done = endedBy index (events ++ [event]) ++ ahead)
    (begun : begunBy index (events ++ [event]) = (doneBy index done).map Prod.fst ++ waiting) :
    Followed office serial events done event
      ⟨Function.update state.phases index phase, state.shared⟩ := by
  refine ⟨none, serial, .nil, agree.shared, fun other => ?_⟩
  rw [Option.toList_none, List.append_nil]
  by_cases same : other = index
  · subst same
    refine ⟨ahead, waiting, ?_, ended, begun⟩
    dsimp only
    rw [Function.update_self]
    exact follows
  · obtain ⟨otherAhead, otherWaiting, otherFollows, otherEnded, otherBegun⟩ := agree.follows other
    obtain ⟨noEnd, noBegin⟩ := only other same
    refine ⟨otherAhead, otherWaiting, ?_, ?_, ?_⟩
    · dsimp only
      rw [Function.update_of_ne same]
      exact otherFollows
    · rw [endedBy_append, noEnd, List.append_nil, otherEnded]
    · rw [begunBy_append, noBegin, List.append_nil, otherBegun]

/-- A step with which a job is done. -/
theorem Matches.does (agree : Matches office state serial events done) (only : event.Only index)
    {job : Job} {result : Result} {party : Party} {shared : Shared}
    (does : SerialStep office serial ⟨index, job, result⟩
      ⟨Function.update serial.parties index party, shared⟩)
    {ahead : List (Job × Result)} {waiting : List Job}
    (follows : Follows office party phase ahead waiting)
    (ended : doneBy index done ++ [(job, result)] = endedBy index (events ++ [event]) ++ ahead)
    (begun : begunBy index (events ++ [event]) =
      (doneBy index done ++ [(job, result)]).map Prod.fst ++ waiting) :
    Followed office serial events done event
      ⟨Function.update state.phases index phase, shared⟩ := by
  refine ⟨some ⟨index, job, result⟩, _, Runs.nil.snoc does, rfl, fun other => ?_⟩
  rw [Option.toList_some, doneBy_append, doneBy_singleton]
  by_cases same : other = index
  · subst same
    rw [if_pos rfl]
    refine ⟨ahead, waiting, ?_, ended, begun⟩
    dsimp only
    rw [Function.update_self, Function.update_self]
    exact follows
  · obtain ⟨otherAhead, otherWaiting, otherFollows, otherEnded, otherBegun⟩ := agree.follows other
    obtain ⟨noEnd, noBegin⟩ := only other same
    rw [if_neg (Ne.symm same), List.append_nil]
    refine ⟨otherAhead, otherWaiting, ?_, ?_, ?_⟩
    · dsimp only
      rw [Function.update_of_ne same, Function.update_of_ne same]
      exact otherFollows
    · rw [endedBy_append, noEnd, List.append_nil, otherEnded]
    · rw [begunBy_append, noBegin, List.append_nil, otherBegun]

theorem only_begins (index : Index) (job : Job) :
    (.begins index job : Event Index Job Result).Only index :=
  fun other apart => ⟨rfl, (begunBy_begins index other job).trans (if_neg (Ne.symm apart))⟩

theorem only_calls (index : Index) : (.calls index : Event Index Job Result).Only index :=
  fun _ _ => ⟨rfl, rfl⟩

theorem only_ends (index : Index) (job : Job) (result : Result) :
    (.ends index job result : Event Index Job Result).Only index :=
  fun other apart => ⟨(endedBy_ends index other job result).trans (if_neg (Ne.symm apart)), rfl⟩

/-- Every step of the run is followed by a job that is done, or by none. -/
theorem Matches.follow
    (single : ∀ party job program, office.starts party job program →
      Once (office.answer job) program (office.own party))
    (agree : Matches office state serial events done) (step : Step office state event after) :
    Followed office serial events done event after := by
  cases step with
  | @begins index party job program free starts =>
    obtain ⟨ahead, waiting, follows, ended, begun⟩ := agree.follows index
    rw [free] at follows
    cases follows
    have kept : endedBy index (events ++ [.begins index job]) = endedBy index events := by
      rw [endedBy_append]
      exact List.append_nil _
    refine agree.stays (only_begins index job)
      (.before starts (single _ _ _ starts) fun _ => rfl) (by rw [kept, ended]) ?_
    rw [begunBy_append, begun, begunBy_begins, if_pos rfl, List.append_nil]
  | @calls index party job own middle shared request following given busy answered =>
    obtain ⟨ahead, waiting, follows, ended, begun⟩ := agree.follows index
    have kept : begunBy index (events ++ [.calls index]) = begunBy index events := by
      rw [begunBy_append]
      exact List.append_nil _
    have keptToo : endedBy index (events ++ [.calls index]) = endedBy index events := by
      rw [endedBy_append]
      exact List.append_nil _
    rw [busy] at follows
    cases follows with
    | before starts once same =>
      cases once with
      | @apart _ _ other _ middleToo apart rest =>
        obtain ⟨rfl, rfl, rfl⟩ : other = given ∧ middleToo = middle ∧ state.shared = shared := by
          have equal := (apart state.shared).symm.trans answered
          exact ⟨congrArg Prod.fst equal, congrArg (·.2.1) equal, congrArg (·.2.2) equal⟩
        refine agree.stays (only_calls index) (.before starts rest fun other => ?_)
          (by rw [keptToo, ended]) (by rw [kept, begun])
        rw [same, Program.run_call, apart]
      | shares rest =>
        -- The one call that is shared: the whole job is done with it.
        obtain ⟨result, last, alone⟩ := rest state.shared
        rw [answered] at alone
        refine agree.does (only_calls index) (.job starts ?_) (.behind alone rfl)
          (by rw [keptToo, ended, List.append_nil]) (by rw [kept, begun]; simp)
        rw [← agree.shared, same, Program.run_call, answered]
        exact alone.run shared
    | behind alone now =>
      cases alone with
      | @call _ _ other _ _ middleToo _ apart rest =>
        obtain ⟨rfl, rfl, rfl⟩ : other = given ∧ middleToo = middle ∧ state.shared = shared := by
          have equal := (apart state.shared).symm.trans answered
          exact ⟨congrArg Prod.fst equal, congrArg (·.2.1) equal, congrArg (·.2.2) equal⟩
        exact agree.stays (only_calls index) (.behind rest now) (by rw [keptToo, ended])
          (by rw [kept, begun])
  | @ends index party job own result busy =>
    obtain ⟨ahead, waiting, follows, ended, begun⟩ := agree.follows index
    have kept : begunBy index (events ++ [.ends index job result]) = begunBy index events := by
      rw [begunBy_append]
      exact List.append_nil _
    rw [busy] at follows
    cases follows with
    | before starts once same =>
      -- No call was shared: the job is done at its end.
      refine agree.does (only_ends index job result) (.job starts ?_) .free ?_ ?_
      · rw [agree.shared]
        exact same serial.shared
      · rw [ended, endedBy_append, endedBy_ends, if_pos rfl]
        simp
      · rw [kept, begun, List.map_append]
        simp
    | behind alone now =>
      cases alone
      have ready : Follows office (serial.parties index)
          (.free (office.ends party job result own)) [] [] := by
        rw [now]
        exact .free
      refine agree.stays (only_ends index job result) ready ?_ (by rw [kept, begun])
      rw [ended, endedBy_append, endedBy_ends, if_pos rfl, List.append_nil]

end Steps

/-! ### Whole runs -/

/-- All parties are free. -/
def Serial.state (serial : Serial Index Party Shared) :
    State Index Party Job Call Answer Result Own Shared :=
  ⟨fun index => .free (serial.parties index), serial.shared⟩

section Runs

variable {start serial : Serial Index Party Shared}
  {state : State Index Party Job Call Answer Result Own Shared}
  {events : List (Event Index Job Result)} {done : List (Done Index Job Result)}

theorem matches_start (start : Serial Index Party Shared) :
    Matches office start.state start ([] : List (Event Index Job Result)) [] :=
  ⟨rfl, fun _ => ⟨[], [], .free, rfl, rfl⟩⟩

theorem between_nil : Between ([] : Notes Index Job Result) := by
  intro first isPrefix index
  rw [List.prefix_nil.mp isPrefix]
  exact ⟨List.nil_prefix, List.nil_prefix⟩

theorem Matches.free (agree : Matches office state serial events done) {index : Index}
    {party : Party} (free : state.phases index = .free party) :
    serial.parties index = party ∧ doneBy index done = endedBy index events := by
  obtain ⟨ahead, waiting, follows, ended, -⟩ := agree.follows index
  rw [free] at follows
  cases follows
  exact ⟨rfl, ended.trans (List.append_nil _)⟩

/-- Every run of overlapping jobs is one in which the jobs are done one after the other, each
between its beginning and its end. -/
theorem serializes (single : ∀ party job program, office.starts party job program →
      Once (office.answer job) program (office.own party))
    (runs : Runs (Step office) start.state events state) :
    ∃ (notes : Notes Index Job Result) (serial : Serial Index Party Shared),
      notes.map Prod.fst = events ∧
        Runs (SerialStep office) start (notes.filterMap Prod.snd) serial ∧
        Matches office state serial events (notes.filterMap Prod.snd) ∧ Between notes := by
  induction runs with
  | nil => exact ⟨[], start, rfl, .nil, matches_start start, between_nil⟩
  | @snoc events middle last event before step inductionHypothesis =>
    obtain ⟨notes, serial, same, done, agree, between⟩ := inductionHypothesis
    obtain ⟨more, next, goesOn, agreeAfter⟩ := agree.follow single step
    have noted : (notes ++ [(event, more)]).filterMap Prod.snd =
        notes.filterMap Prod.snd ++ more.toList := by
      rw [List.filterMap_append]
      cases more <;> rfl
    refine ⟨notes ++ [(event, more)], next, by simp [same], ?_, ?_, ?_⟩
    · rw [noted]
      exact done.append goesOn
    · rw [noted]
      exact agreeAfter
    · intro first isPrefix index
      rcases List.prefix_concat_iff.mp isPrefix with rfl | earlier
      · rw [noted, List.map_append, same]
        exact agreeAfter.between index
      · exact between first earlier index

end Runs

/-! ### Parties that go on alone -/

section Alone

variable {index : Index} {party : Party} {job : Job}

/-- What a program comes to, its party reaches with calls of its own. -/
theorem plays {phases : Index → Phase Party Job Call Answer Result Own} {shared after : Shared}
    {program : Program Call Answer Result} {own last : Own} {result : Result}
    (busy : phases index = .busy party job own program)
    (ran : Program.run (office.answer job) program (own, shared) = (some result, last, after)) :
    ∃ calls, (∀ event ∈ calls, event = .calls index) ∧ Runs (Step office) ⟨phases, shared⟩ calls
      ⟨Function.update phases index (.busy party job last (.finished result)), after⟩ := by
  induction program generalizing phases shared own with
  | finished given =>
    obtain ⟨same, left⟩ := Prod.mk.inj ran
    cases same
    cases left
    rw [← busy, Function.update_eq_self]
    exact ⟨[], fun _ none => absurd none List.not_mem_nil, .nil⟩
  | undefined => cases ran
  | call request next inductionHypothesis =>
    rw [Program.run_call] at ran
    have first : Runs (Step office) ⟨phases, shared⟩ [.calls index] _ :=
      Runs.nil.snoc (.calls busy rfl)
    obtain ⟨calls, only, runs⟩ := inductionHypothesis _ (Function.update_self index _ phases) ran
    rw [Function.update_idem] at runs
    exact ⟨.calls index :: calls, List.forall_mem_cons.mpr ⟨rfl, only⟩, first.append runs⟩

/-- A party that is let alone ends its job. -/
theorem finishes {phases : Index → Phase Party Job Call Answer Result Own} {shared after : Shared}
    {program : Program Call Answer Result} {own last : Own} {result : Result}
    (busy : phases index = .busy party job own program)
    (ran : Program.run (office.answer job) program (own, shared) = (some result, last, after)) :
    ∃ events, .ends index job result ∈ events ∧
      (∀ event ∈ events, ∀ other begun, event ≠ .begins other begun) ∧
      Runs (Step office) ⟨phases, shared⟩ events
        ⟨Function.update phases index (.free (office.ends party job result last)), after⟩ := by
  obtain ⟨calls, only, runs⟩ := plays busy ran
  have goesOn := runs.snoc (.ends (Function.update_self ..))
  rw [Function.update_idem] at goesOn
  refine ⟨_, List.mem_append_right _ (List.mem_singleton.mpr rfl), fun event member => ?_, goesOn⟩
  rcases List.mem_append.mp member with called | ended
  · obtain rfl := only event called
    exact nofun
  · obtain rfl := List.mem_singleton.mp ended
    exact nofun

/-- Two jobs that follow each other can overlap. -/
theorem overlaps {first second third : Serial Index Party Shared} {one two : Done Index Job Result}
    (step : SerialStep office first one second) (next : SerialStep office second two third)
    (apart : two.index ≠ one.index) :
    ∃ events, .ends one.index one.job one.result ∈ events ∧
      .ends two.index two.job two.result ∈ events ∧
      (∀ event ∈ events, ∀ index job, event ≠ .begins index job) ∧
      Runs (Step office) first.state
        (.begins one.index one.job :: .begins two.index two.job :: events) third.state := by
  cases step with
  | @job one oneJob program oneResult oneLast middle starts ran =>
    cases next with
    | @job two twoJob programToo twoResult twoLast after startsToo ranToo =>
      replace apart : two ≠ one := apart
      dsimp only at startsToo ranToo ⊢
      rw [Function.update_of_ne apart] at startsToo ranToo ⊢
      have begins : Step office first.state (.begins one oneJob)
          ⟨Function.update first.state.phases one
            (.busy (first.parties one) oneJob (office.own (first.parties one)) program),
            first.shared⟩ := .begins rfl starts
      have free : Function.update first.state.phases one (.busy (first.parties one) oneJob
          (office.own (first.parties one)) program) two = .free (first.parties two) :=
        Function.update_of_ne apart _ _
      have both := (Runs.nil.snoc begins).snoc (.begins free startsToo)
      dsimp only at both
      obtain ⟨events, ended, quiet, runs⟩ := finishes ((Function.update_of_ne apart.symm _ _).trans
        (Function.update_self ..)) ran
      have goesOn := both.append runs
      have busy := (Function.update_of_ne apart (.free (office.ends (first.parties one) oneJob
        oneResult oneLast)) _).trans (Function.update_self two (.busy (first.parties two) twoJob
          (office.own (first.parties two)) programToo) (Function.update first.state.phases one
            (.busy (first.parties one) oneJob (office.own (first.parties one)) program)))
      obtain ⟨more, endedToo, quietToo, runsToo⟩ := finishes busy ranToo
      refine ⟨events ++ more, List.mem_append_left _ ended, List.mem_append_right _ endedToo,
        fun event member => (List.mem_append.mp member).elim (quiet event) (quietToo event), ?_⟩
      have whole := goesOn.append runsToo
      rw [Function.update_comm apart, Function.update_idem, Function.update_idem] at whole
      have settled : ∀ (parties : Index → Party) (index : Index) (party : Party),
          Function.update (fun other => Phase.free (parties other)) index (.free party) =
            fun other => (.free (Function.update parties index party other) :
              Phase Party Job Call Answer Result Own) :=
        fun parties index party => (Function.comp_update Phase.free parties index party).symm
      rw [show first.state.phases = fun other => Phase.free (first.parties other) from rfl, settled,
        settled, List.append_assoc] at whole
      exact whole

end Alone

end Overlap
