/-
This file is a small library of loops that read until they are given something
they accept. A reader takes one text after the other out of a stream into a
buffer, and at the end of the stream it leaves the buffer to itself. A loop that
does not look for the end of the stream ends exactly when one of the texts is
accepted: behind the last of them every round is the same as the one before.
-/

import Mathlib.Data.Option.Basic

namespace Retry

/-- A loop, given a number of rounds to run for, ends within some number of them. -/
def Ends {Result : Type} (loop : Nat → Option Result) : Prop :=
  ∃ rounds result, loop rounds = some result

/-- The next text and the rest of a stream, or nothing at its end, and what is made of a buffer
when nothing was read. That changes nothing in a buffer which it has already been done to, nor in
one that was read into. -/
structure Reader (Stream Text : Type) where
  next : Stream → Option (Text × Stream)
  keep : Text → Text
  keep_keep : ∀ buffer, keep (keep buffer) = keep buffer
  keep_next : ∀ {stream text rest}, next stream = some (text, rest) → keep text = text

section

variable {Stream Text : Type} (reader : Reader Stream Text) (accepts : Text → Bool)

/-- The buffer and the stream after a round. -/
def Reader.read (buffer : Text) (stream : Stream) : Text × Stream :=
  (reader.next stream).getD (reader.keep buffer, stream)

/-- The loop, for so many rounds: the buffer it accepts and what is left of the stream. -/
def Reader.readUntil : Nat → Text → Stream → Option (Text × Stream)
  | 0, _, _ => none
  | rounds + 1, buffer, stream =>
    let (text, rest) := reader.read buffer stream
    if accepts text then some (text, rest) else Reader.readUntil rounds text rest

/-- The stream gives these texts and then nothing. -/
inductive Reader.Gives : Stream → List Text → Prop
  | nothing {stream : Stream} : reader.next stream = none → Gives stream []
  | text {stream rest : Stream} {text : Text} {texts : List Text} :
    reader.next stream = some (text, rest) → Gives rest texts → Gives stream (text :: texts)

variable {reader accepts} {buffer : Text} {stream : Stream}

theorem Reader.read_some {text : Text} {rest : Stream}
    (found : reader.next stream = some (text, rest)) : reader.read buffer stream = (text, rest) :=
  Option.getD_eq_iff.mpr (Or.inl found)

theorem Reader.read_end (atEnd : reader.next stream = none) :
    reader.read buffer stream = (reader.keep buffer, stream) :=
  Option.getD_eq_iff.mpr (Or.inr ⟨atEnd, rfl⟩)

theorem Reader.readUntil_accepted (rounds : Nat)
    (accepted : accepts (reader.read buffer stream).1 = true) :
    reader.readUntil accepts (rounds + 1) buffer stream = some (reader.read buffer stream) :=
  if_pos accepted

theorem Reader.readUntil_refused (rounds : Nat)
    (refused : accepts (reader.read buffer stream).1 = false) :
    reader.readUntil accepts (rounds + 1) buffer stream =
      reader.readUntil accepts rounds (reader.read buffer stream).1
        (reader.read buffer stream).2 :=
  if_neg (Bool.eq_false_iff.mp refused)

/-- A loop ends in its first round, or as the loop behind that round ends. -/
theorem Reader.ends_round :
    Ends (fun rounds => reader.readUntil accepts rounds buffer stream) ↔
      accepts (reader.read buffer stream).1 = true ∨
        Ends fun rounds => reader.readUntil accepts rounds (reader.read buffer stream).1
          (reader.read buffer stream).2 := by
  cases answer : accepts (reader.read buffer stream).1 with
  | true => exact ⟨fun _ => Or.inl rfl, fun _ => ⟨1, _, readUntil_accepted 0 answer⟩⟩
  | false =>
    constructor
    · rintro ⟨_ | rounds, result, ended⟩
      · cases ended
      · exact Or.inr ⟨rounds, result, (readUntil_refused rounds answer).symm.trans ended⟩
    · rintro (⟨⟨⟩⟩ | ⟨rounds, result, ended⟩)
      exact ⟨rounds + 1, result, (readUntil_refused rounds answer).trans ended⟩

/-- Behind the end of the stream a buffer that is refused is refused in every round. -/
theorem Reader.readUntil_end (atEnd : reader.next stream = none)
    (refused : accepts (reader.keep buffer) = false) (rounds : Nat) :
    reader.readUntil accepts rounds buffer stream = none := by
  induction rounds generalizing buffer with
  | zero => rfl
  | succ rounds inductionHypothesis =>
    have unchanged : reader.read buffer stream = (reader.keep buffer, stream) := read_end atEnd
    rw [readUntil_refused rounds (by rw [unchanged]; exact refused), unchanged]
    exact inductionHypothesis (by rw [reader.keep_keep]; exact refused)

/-- The loop ends when it is given a text that it accepts, or when there is none to be given and it
accepts what it finds in the buffer. -/
theorem Reader.ends_iff {texts : List Text} (gives : reader.Gives stream texts) :
    Ends (fun rounds => reader.readUntil accepts rounds buffer stream) ↔
      (reader.next stream = none ∧ accepts (reader.keep buffer) = true) ∨
        ∃ text ∈ texts, accepts text = true := by
  induction gives generalizing buffer with
  | @nothing stream atEnd =>
    constructor
    · rintro ⟨rounds, result, ended⟩
      cases answer : accepts (reader.keep buffer) with
      | true => exact Or.inl ⟨atEnd, rfl⟩
      | false => cases (readUntil_end atEnd answer rounds).symm.trans ended
    · rintro (⟨_, accepted⟩ | ⟨_, none, _⟩)
      · exact ends_round.mpr (Or.inl (by rw [read_end atEnd]; exact accepted))
      · cases none
  | @text stream rest text texts found _ inductionHypothesis =>
    rw [ends_round, read_some found, inductionHypothesis, reader.keep_next found]
    constructor
    · rintro (accepted | ⟨_, accepted⟩ | ⟨later, among, accepted⟩)
      · exact Or.inr ⟨text, List.mem_cons_self, accepted⟩
      · exact Or.inr ⟨text, List.mem_cons_self, accepted⟩
      · exact Or.inr ⟨later, List.mem_cons_of_mem _ among, accepted⟩
    · rintro (⟨atEnd, _⟩ | ⟨later, among, accepted⟩)
      · cases found.symm.trans atEnd
      rcases List.mem_cons.mp among with rfl | among
      · exact Or.inl accepted
      · exact Or.inr (Or.inr ⟨later, among, accepted⟩)

end

end Retry
