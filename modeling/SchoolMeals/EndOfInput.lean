/-
This file follows the client to the end of its input. A pass reads the number in
front of it and at least the byte behind, so the input is over after as many
passes as it has bytes. `scanf` then leaves the number as it is, and the number
of a pass that did not end the client does not end it later either: a client
that gets there never exits.
-/

import SchoolMeals.Conduct

namespace SchoolMeals

open CText Interaction Transition

/-! ### What a pass leaves -/

theorem exitChoice_eq_or (session : Session) :
    session.exitChoice = 3 ∨ session.exitChoice = 5 := by
  unfold Session.exitChoice
  split
  · exact Or.inl rfl
  · exact Or.inr rfl

section Pass

variable {state : ClientState} {input : PassInput} {path : List ClientExchange} {after : Session}

/-- The number of a pass that goes on does not end the client in the session behind it. -/
theorem stays_of_pass (fits : input.Fits state)
    (effect : SessionEffect state.session path input.action after)
    (goesOn : input.action ≠ .exit) : input.choice ≠ after.exitChoice := by
  have other : input.choice ≠ state.session.exitChoice := fun chosen =>
    goesOn (fits.exits.mpr chosen)
  have either := exitChoice_eq_or after
  generalize found : input.action = action at effect goesOn
  cases effect with
  | login =>
    have nobody : state.session.phase = .nobody := by
      have allowed := fits.allowed
      rw [found] at allowed
      cases allowed with
      | login nobody _ _ => exact nobody
    have entered : input.choice = 1 ∨ input.choice = 2 := by
      rcases fits.entry nobody with ended | nothing | entered
      · rw [found] at ended
        cases ended
      · cases found.symm.trans nothing
      · exact entered
    rcases either with number | number <;> rw [number] <;>
      rcases entered with chosen | chosen <;> rw [chosen] <;> decide
  | other => exact other
  | logout =>
    rw [fits.logout found]
    decide
  | nothing => exact other
  | exit => exact absurd rfl goesOn

/-- The input gets shorter, unless it is over: then the number is kept. -/
theorem reads_of_fits (fits : input.Fits state) :
    (state.stdin = [] ∧ input.stdin = [] ∧ input.choice = state.choice) ∨
      input.stdin.length + 1 ≤ state.stdin.length := by
  cases found : state.stdin with
  | nil =>
    have left := fits.left
    have scanned := fits.scanned
    rw [found] at left scanned
    exact Or.inl ⟨rfl, List.suffix_nil.mp left, scanned⟩
  | cons byte rest =>
    have left := fits.left
    rw [found] at left
    exact Or.inr (Nat.succ_le_succ left.length_le)

end Pass

/-! ### Whole runs -/

/-- The client goes on, and the number it has does not end it. -/
structure ClientState.Stays (state : ClientState) : Prop where
  running : state.running = true
  other : state.choice ≠ state.session.exitChoice

section Runs

variable {choice : Int} {stdin : Bytes} {passes more : List LoopPass} {state last : ClientState}

/-- A pass ends the client, for the number that does so, or leaves it with a number that does
not. -/
theorem stays_of_step {pass : LoopPass} (step : PassStep state pass last) :
    (last.running = false ∧ (state.stdin = [] → state.choice = state.session.exitChoice)) ∨
      (last.Stays ∧ ((state.stdin = [] ∧ last.stdin = [] ∧ last.choice = state.choice) ∨
        last.stdin.length + 1 ≤ state.stdin.length)) := by
  obtain ⟨running, reads, walked⟩ := step
  have fits := readPass_fits reads
  rename_i input _ _
  by_cases exits : input.action = .exit
  · refine Or.inl ⟨by rw [exits]; rfl, fun drained => ?_⟩
    have scanned := fits.scanned
    rw [drained] at scanned
    exact scanned.symm.trans (fits.exits.mp exits)
  · refine Or.inr ⟨⟨?_, stays_of_pass fits (effect_of_perform walked) exits⟩, reads_of_fits fits⟩
    cases found : input.action with
    | exit => exact absurd found exits
    | calls | logout | nothing => rfl

/-- A client at the end of its input whose number does not end it stays there. -/
theorem stays_of_runs (runs : Runs PassStep state more last) (stays : state.Stays)
    (drained : state.stdin = []) :
    last.Stays ∧ last.stdin = [] ∧ last.choice = state.choice := by
  refine runs.invariant
    (fun _ later => later.Stays ∧ later.stdin = [] ∧ later.choice = state.choice)
    ⟨stays, drained, rfl⟩ ?_
  intro before middle label after _ _ step held
  obtain ⟨middleStays, middleOver, same⟩ := held
  rcases stays_of_step step with ⟨-, exits⟩ | ⟨afterStays, ⟨-, left, kept⟩ | shorter⟩
  · exact absurd (exits middleOver) middleStays.other
  · exact ⟨afterStays, left, kept.trans same⟩
  · rw [middleOver] at shorter
    cases shorter

/-- Where a run gets to: the start, a client that stays with what is left of the input, or the
end. -/
inductive Reaches (choice : Int) (stdin : Bytes) : Nat → ClientState → Prop where
  | start : Reaches choice stdin 0 (.start choice stdin)
  | stays {count : Nat} {state : ClientState} (stays : state.Stays) (some : 0 < count)
      (left : state.stdin ≠ [] → count + state.stdin.length ≤ stdin.length) :
      Reaches choice stdin count state
  | stopped {count : Nat} {state : ClientState} (stopped : state.running = false)
      (reads : count ≤ stdin.length ∨ stdin = [] ∧ choice = 3 ∧ count = 1) :
      Reaches choice stdin count state

theorem reaches_of_step {count : Nat} {pass : LoopPass} (reaches : Reaches choice stdin count state)
    (step : PassStep state pass last) : Reaches choice stdin (count + 1) last := by
  cases reaches with
  | start =>
    rcases stays_of_step step with ⟨stopped, exits⟩ | ⟨stays, left⟩
    · refine .stopped stopped ?_
      rcases List.eq_nil_or_concat stdin with drained | ⟨_, _, rfl⟩
      · exact Or.inr ⟨drained, exits drained, rfl⟩
      · exact Or.inl (by simp)
    · refine .stays stays (Nat.succ_pos _) fun unread => ?_
      rcases left with ⟨-, drained, -⟩ | shorter
      · exact absurd drained unread
      · rw [Nat.zero_add, Nat.add_comm]
        exact shorter
  | stays stays some left =>
    rcases stays_of_step step with ⟨stopped, exits⟩ | ⟨lastStays, lastLeft⟩
    · refine .stopped stopped (Or.inl ?_)
      have unread : state.stdin ≠ [] := fun drained => stays.other (exits drained)
      have := List.length_pos_iff.mpr unread
      exact (Nat.add_le_add_left this count).trans (left unread)
    · refine .stays lastStays (Nat.succ_pos _) fun unread => ?_
      rcases lastLeft with ⟨-, drained, -⟩ | shorter
      · exact absurd drained unread
      · have unreadBefore : state.stdin ≠ [] := by
          intro drained
          rw [drained] at shorter
          cases shorter
        have := left unreadBefore
        omega
  | stopped stopped =>
    obtain ⟨running, _, _⟩ := step
    exact absurd running (by rw [stopped]; decide)

theorem reaches_of_runs (runs : Runs PassStep (.start choice stdin) passes state) :
    Reaches choice stdin passes.length state := by
  refine runs.invariant (fun passes state => Reaches choice stdin passes.length state) .start ?_
  intro before middle label after _ _ step reaches
  rw [List.length_append]
  exact reaches_of_step reaches step

/-- A client that exits has read in each of its passes: there are no more of them than bytes of
input. Only a client without any input exits when its uninitialised number happens to be three. -/
theorem length_le_of_exit (runs : Runs PassStep (.start choice stdin) passes last)
    (exited : last.running = false) :
    passes.length ≤ stdin.length ∨ stdin = [] ∧ choice = 3 ∧ passes.length = 1 := by
  have reaches := reaches_of_runs runs
  generalize passes.length = count at reaches ⊢
  cases reaches with
  | start => cases exited
  | stays stays => exact absurd exited (by rw [stays.running]; decide)
  | stopped _ reads => exact reads

/-- Behind a pass, a client at the end of its input never exits: it goes on with the number it has
read last. -/
theorem running_of_exhausted (runs : Runs PassStep (.start choice stdin) passes state)
    (begun : passes ≠ []) (running : state.running = true) (drained : state.stdin = [])
    (goesOn : Runs PassStep state more last) :
    last.running = true ∧ last.stdin = [] ∧ last.choice = state.choice := by
  have stays : state.Stays := by
    have reaches := reaches_of_runs runs
    generalize counted : passes.length = count at reaches
    cases reaches with
    | start => exact absurd (List.length_eq_zero_iff.mp counted) begun
    | stays stays => exact stays
    | stopped stopped => exact absurd running (by rw [stopped]; decide)
  obtain ⟨lastStays, lastOver, same⟩ := stays_of_runs goesOn stays drained
  exact ⟨lastStays.running, lastOver, same⟩

end Runs

/-- A pass in which nobody does anything. -/
def idlePass : LoopPass := ⟨Session.empty, .nothing, [], Session.empty, false⟩

theorem idle_step {choice : Int} {stdin left : Bytes} {number : Int}
    (reads : readPass 1 .zeroed ⟨Session.empty, choice, stdin, true⟩ =
      some ⟨.nothing, number, left⟩) :
    PassStep ⟨Session.empty, choice, stdin, true⟩ idlePass ⟨Session.empty, number, left, true⟩ :=
  @PassStep.pass ⟨Session.empty, choice, stdin, true⟩ 1 .zeroed ⟨.nothing, number, left⟩ []
    ⟨Session.empty, false⟩ rfl reads (.nil _)

/-- A number that is no choice, and then the one that exits. -/
theorem length_exit : [idlePass, ⟨Session.empty, .exit, [], Session.empty, false⟩].length ≤
    (utf8 "9\n3\n").length ∨ utf8 "9\n3\n" = [] ∧ (0 : Int) = 3 ∧
      [idlePass, ⟨Session.empty, .exit, [], Session.empty, false⟩].length = 1 :=
  length_le_of_exit ((Runs.nil.snoc (idle_step (by decide))).snoc
    (@PassStep.pass ⟨Session.empty, 9, utf8 "3\n", true⟩ 1 .zeroed ⟨.exit, 3, []⟩ []
      ⟨Session.empty, false⟩ rfl (by decide) (.nil _))) rfl

theorem runs_idlePass :
    Runs PassStep (.start 0 (utf8 "9\n")) [idlePass] ⟨Session.empty, 9, [], true⟩ :=
  Runs.nil.snoc (idle_step (by decide))

/-- The input is over behind a number that is no choice, and the client goes on. -/
theorem running_idle : ∃ passes last, passes ≠ [] ∧
    Runs PassStep (.start 0 (utf8 "9\n")) passes last ∧ last.running = true ∧ last.stdin = [] ∧
      last.choice = 9 := by
  have again : PassStep ⟨Session.empty, 9, [], true⟩ idlePass ⟨Session.empty, 9, [], true⟩ :=
    idle_step (by decide)
  exact ⟨[idlePass] ++ [idlePass], _, by decide, runs_idlePass.snoc again,
    running_of_exhausted runs_idlePass (by decide) rfl rfl (Runs.nil.snoc again)⟩

end SchoolMeals
