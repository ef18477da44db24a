/-
This file is a small library about what one program of a family can do to the
others. A program makes only calls of some kind when it does so whatever it is
answered. It ensures a property of its own calls when it does so whatever the
others do to the shared state, as long as everyone keeps an invariant.

The last result deletes programs from a run. When what some programs do cannot be
seen in the part of the state that the others look at, their calls can be left
out of any run: the others make the same calls and get the same answers.
-/

import SchoolMeals.Library.Interaction

namespace Interaction

variable {Index Call : Type} {Answer : Call → Type} {Result Other State : Type}

/-! ### The calls a program makes -/

section Only

/-- As long as its answers are possible ones, the program makes only allowed calls. -/
def Only (possible : (request : Call) → Answer request → Prop) (allowed : Call → Prop) :
    Program Call Answer Result → Prop
  | .finished _ => True
  | .undefined => True
  | .call request next =>
    allowed request ∧ ∀ answer, possible request answer → Only possible allowed (next answer)

variable {possible : (request : Call) → Answer request → Prop} {allowed : Call → Prop}

theorem only_call {request : Call} {next : Answer request → Program Call Answer Result}
    (first : allowed request)
    (rest : ∀ answer, possible request answer → Only possible allowed (next answer)) :
    Only possible allowed (.call request next) := ⟨first, rest⟩

theorem only_bind {program : Program Call Answer Result}
    {next : Result → Program Call Answer Other} (first : Only possible allowed program)
    (rest : ∀ result, Only possible allowed (next result)) :
    Only possible allowed (program >>= next) := by
  induction program with
  | finished result => exact rest result
  | undefined => trivial
  | call request following inductionHypothesis =>
    exact only_call first.1 fun answer given =>
      inductionHypothesis answer (first.2 answer given)

theorem Only.mono {wider : Call → Prop} (within : ∀ request, allowed request → wider request)
    {program : Program Call Answer Result} (only : Only possible allowed program) :
    Only possible wider program := by
  induction program with
  | finished result => trivial
  | undefined => trivial
  | call request next inductionHypothesis =>
    exact only_call (within request only.1) fun answer given =>
      inductionHypothesis answer (only.2 answer given)

theorem only_ite {condition : Prop} [Decidable condition]
    {first second : Program Call Answer Result} (yes : condition → Only possible allowed first)
    (no : ¬ condition → Only possible allowed second) :
    Only possible allowed (if condition then first else second) := by
  by_cases holds : condition
  · rw [if_pos holds]
    exact yes holds
  · rw [if_neg holds]
    exact no holds

/-- A path with possible answers has allowed calls only. -/
theorem Only.of_path {program last : Program Call Answer Result}
    {path : List (Program.Exchange Call Answer)} (walked : Program.Path program path last)
    (only : Only possible allowed program)
    (given : ∀ exchange ∈ path, possible exchange.request exchange.answer) :
    ∀ exchange ∈ path, allowed exchange.request := by
  induction walked with
  | nil program => exact fun exchange none => absurd none List.not_mem_nil
  | cons request next answer rest last tail inductionHypothesis =>
    have later := inductionHypothesis (only.2 answer (given _ List.mem_cons_self))
      fun exchange member => given exchange (List.mem_cons_of_mem _ member)
    intro exchange member
    rcases List.mem_cons.mp member with rfl | member
    · exact only.1
    · exact later exchange member

/-- The program makes allowed calls only, whatever it is answered, and its behaviour is always
defined. -/
def Within (allowed : Call → Prop) : Program Call Answer Result → Prop
  | .finished _ => True
  | .undefined => False
  | .call request next => allowed request ∧ ∀ answer, Within allowed (next answer)

theorem within_bind {program : Program Call Answer Result}
    {next : Result → Program Call Answer Other} (first : Within allowed program)
    (rest : ∀ result, Within allowed (next result)) : Within allowed (program >>= next) := by
  induction program with
  | finished result => exact rest result
  | undefined => exact first.elim
  | call request following inductionHypothesis =>
    exact ⟨first.1, fun answer => inductionHypothesis answer (first.2 answer)⟩

theorem within_ite {condition : Prop} [Decidable condition]
    {first second : Program Call Answer Result} (yes : condition → Within allowed first)
    (no : ¬ condition → Within allowed second) :
    Within allowed (if condition then first else second) := by
  by_cases holds : condition
  · rw [if_pos holds]
    exact yes holds
  · rw [if_neg holds]
    exact no holds

theorem Within.only {program : Program Call Answer Result} (within : Within allowed program) :
    Only possible allowed program := by
  induction program with
  | finished result => trivial
  | undefined => trivial
  | call request next inductionHypothesis =>
    exact only_call within.1 fun answer _ => inductionHypothesis answer (within.2 answer)

end Only

/-- The program is not finished. -/
def Pending : Program Call Answer Result → Prop
  | .finished _ => False
  | .undefined => True
  | .call _ _ => True

theorem pending_ite {condition : Prop} [Decidable condition]
    {first second : Program Call Answer Result} (yes : Pending first) (no : Pending second) :
    Pending (if condition then first else second) := by
  split
  · exact yes
  · exact no

/-! ### What a program ensures -/

section Ensures

variable (answers : (request : Call) → State → Answer request → State → Prop)
  (invariant : State → Prop) (goal : List (Program.Exchange Call Answer) → Prop)

/-- With these calls made already, the behaviour of the program stays defined and its calls meet
the goal when it finishes, as long as it finds the invariant. -/
def Ensures : Program Call Answer Result → List (Program.Exchange Call Answer) → Prop
  | .finished _, done => goal done
  | .undefined, _ => False
  | .call request next, done => ∀ before answer after, invariant before →
      answers request before answer after → Ensures (next answer) (done ++ [⟨request, answer⟩])

variable {answers invariant goal}

theorem ensures_ite {condition : Prop} [Decidable condition]
    {first second : Program Call Answer Result} {done : List (Program.Exchange Call Answer)}
    (yes : condition → Ensures answers invariant goal first done)
    (no : ¬ condition → Ensures answers invariant goal second done) :
    Ensures answers invariant goal (if condition then first else second) done := by
  by_cases holds : condition
  · rw [if_pos holds]
    exact yes holds
  · rw [if_neg holds]
    exact no holds

end Ensures

section Runs

variable [DecidableEq Index]
  {answers : Index → (request : Call) → State → Answer request → State → Prop}
  {start last : Family Index Call Answer Result State}
  {events : List (Event Index Call Answer)}

theorem eventsOf_snoc_self (events : List (Event Index Call Answer)) (index : Index)
    (exchange : Program.Exchange Call Answer) :
    eventsOf index (events ++ [⟨exchange, index⟩]) = eventsOf index events ++ [exchange] := by
  rw [eventsOf_append]
  simp [eventsOf]

theorem eventsOf_snoc_of_ne (events : List (Event Index Call Answer))
    (exchange : Program.Exchange Call Answer) {index other : Index} (different : index ≠ other) :
    eventsOf other (events ++ [⟨exchange, index⟩]) = eventsOf other events := by
  rw [eventsOf_append]
  simp [eventsOf, different]

/-- What holds of every program and its calls so far, and is kept when a program goes on, holds
at the end of a run. The invariant of the state may be used on the way. -/
theorem Runs.each (runs : Runs answers start events last) {invariant : State → Prop}
    (holds : Index → Program Call Answer Result → List (Program.Exchange Call Answer) → Prop)
    (good : invariant start.shared) (first : ∀ index, holds index (start.programs index) [])
    (step : ∀ index request next done before answer after,
      holds index (.call request next) done → answers index request before answer after →
        invariant before → invariant after ∧
          holds index (next answer) (done ++ [⟨request, answer⟩])) :
    invariant last.shared ∧ ∀ index, holds index (last.programs index) (eventsOf index events) := by
  induction runs with
  | nil => exact ⟨good, first⟩
  | @snoc middle _ earlier _ before newest inductionHypothesis =>
    obtain ⟨kept, each⟩ := inductionHypothesis
    cases newest with
    | call index request next answer after pending answered =>
      have own := each index
      rw [pending] at own
      obtain ⟨still, rest⟩ := step _ _ _ _ _ _ _ own answered kept
      refine ⟨still, fun other => ?_⟩
      show holds other (Function.update middle.programs index (next answer) other) _
      rcases eq_or_ne other index with rfl | different
      · rw [Function.update_self, eventsOf_snoc_self]
        exact rest
      · rw [Function.update_of_ne different, eventsOf_snoc_of_ne _ _ (Ne.symm different)]
        exact each other

/-- Programs that make only calls which keep the invariant, and that each ensure their goal, do so
side by side: none comes to undefined behaviour, and one that has finished meets its goal. -/
theorem Runs.meets (runs : Runs answers start events last) {invariant : State → Prop}
    {possible : Index → (request : Call) → Answer request → Prop} {allowed : Index → Call → Prop}
    {goals : Index → List (Program.Exchange Call Answer) → Prop}
    (given : ∀ index request before answer after, answers index request before answer after →
      possible index request answer)
    (keeps : ∀ index request, allowed index request → ∀ before answer after,
      answers index request before answer after → invariant before → invariant after)
    (good : invariant start.shared)
    (only : ∀ index, Only (possible index) (allowed index) (start.programs index))
    (ensures : ∀ index,
      Ensures (answers index) invariant (goals index) (start.programs index) []) :
    invariant last.shared ∧ ∀ index, last.programs index ≠ .undefined ∧
      ∀ result, last.programs index = .finished result → goals index (eventsOf index events) := by
  obtain ⟨kept, each⟩ := runs.each (fun index program done =>
      Only (possible index) (allowed index) program ∧
        Ensures (answers index) invariant (goals index) program done)
    good (fun index => ⟨only index, ensures index⟩)
    fun index request next done before answer after both answered holds =>
      ⟨keeps index request both.1.1 before answer after answered holds,
        both.1.2 answer (given index request before answer after answered),
        both.2 before answer after holds answered⟩
  refine ⟨kept, fun index => ⟨fun undefined => ?_, fun result finished => ?_⟩⟩
  · have ensured := (each index).2
    rw [undefined] at ensured
    exact ensured
  · have ensured := (each index).2
    rw [finished] at ensured
    exact ensured

/-! ### Leaving programs out -/

/-- The programs that stay make the same calls and get the same answers when the calls of the
others are left out. -/
theorem Runs.erase (runs : Runs answers start events last) (stays : Index → Bool)
    {possible : Index → (request : Call) → Answer request → Prop}
    (given : ∀ index request before answer after, answers index request before answer after →
      possible index request answer) {near far : Call → Prop} {agree : State → State → Prop}
    (looks : ∀ index, stays index = true → ∀ request, near request →
      ∀ before answer after other, answers index request before answer after →
        agree before other → ∃ otherAfter, answers index request other answer otherAfter ∧
          agree after otherAfter)
    (unseen : ∀ index, stays index = false → ∀ request, far request →
      ∀ before answer after other, answers index request before answer after →
        agree before other → agree after other)
    (nearOnly : ∀ index, stays index = true → Only (possible index) near (start.programs index))
    (farOnly : ∀ index, stays index = false → Only (possible index) far (start.programs index))
    {other : State} (agrees : agree start.shared other) :
    ∃ programs left, Runs answers ⟨start.programs, other⟩ (events.filter (stays ·.index))
        ⟨programs, left⟩ ∧ agree last.shared left ∧
      (∀ index, stays index = true → programs index = last.programs index ∧
        Only (possible index) near (last.programs index)) ∧
      ∀ index, stays index = false → Only (possible index) far (last.programs index) := by
  induction runs with
  | nil =>
    exact ⟨start.programs, other, .nil _, agrees,
      fun index stay => ⟨rfl, nearOnly index stay⟩, farOnly⟩
  | @snoc middle _ earlier _ before step inductionHypothesis =>
    obtain ⟨programs, left, shorter, alike, near, far⟩ := inductionHypothesis
    cases step with
    | call index request next answer after pending answered =>
      cases stay : stays index with
      | true =>
        obtain ⟨same, only⟩ := near index stay
        rw [pending] at same only
        obtain ⟨otherAfter, otherAnswered, still⟩ :=
          looks index stay request only.1 _ answer after left answered alike
        refine ⟨Function.update programs index (next answer), otherAfter, ?_, still,
          fun other stayOther => ?_, fun other leaves => ?_⟩
        · rw [List.filter_append, List.filter_cons_of_pos (by exact stay), List.filter_nil]
          exact shorter.snoc (.call ⟨programs, left⟩ index request next answer otherAfter same
            otherAnswered)
        · show Function.update programs index (next answer) other =
              Function.update middle.programs index (next answer) other ∧
            Only _ _ (Function.update middle.programs index (next answer) other)
          rcases eq_or_ne other index with rfl | different
          · rw [Function.update_self, Function.update_self]
            exact ⟨rfl, only.2 answer (given _ _ _ _ _ answered)⟩
          · rw [Function.update_of_ne different, Function.update_of_ne different]
            exact near other stayOther
        · show Only _ _ (Function.update middle.programs index (next answer) other)
          have different : other ≠ index := by
            rintro rfl
            exact Bool.noConfusion (stay.symm.trans leaves)
          rw [Function.update_of_ne different]
          exact far other leaves
      | false =>
        have only := far index stay
        rw [pending] at only
        refine ⟨programs, left, ?_,
          unseen index stay request only.1 _ answer after left answered alike,
          fun other stayOther => ?_, fun other leaves => ?_⟩
        · rw [List.filter_append, List.filter_cons_of_neg (by simpa using stay), List.filter_nil,
            List.append_nil]
          exact shorter
        · show programs other = Function.update middle.programs index (next answer) other ∧
            Only _ _ (Function.update middle.programs index (next answer) other)
          have different : other ≠ index := by
            rintro rfl
            exact Bool.noConfusion (stay.symm.trans stayOther)
          rw [Function.update_of_ne different]
          exact near other stayOther
        · show Only _ _ (Function.update middle.programs index (next answer) other)
          rcases eq_or_ne other index with rfl | different
          · rw [Function.update_self]
            exact only.2 answer (given _ _ _ _ _ answered)
          · rw [Function.update_of_ne different]
            exact far other leaves

/-- Leaving out programs leaves the calls of the others as they were. -/
theorem eventsOf_filter (events : List (Event Index Call Answer)) (stays : Index → Bool)
    {index : Index} (stay : stays index = true) :
    eventsOf index (events.filter (stays ·.index)) = eventsOf index events := by
  rw [eventsOf, List.filter_filter, eventsOf]
  refine congrArg (List.map _) (List.filter_congr fun event _ => ?_)
  by_cases same : event.index = index
  · simp [same, stay]
  · simp [same]

end Runs

end Interaction
