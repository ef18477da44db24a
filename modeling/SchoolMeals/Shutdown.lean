/-
This file follows the threads through the end of `main`. `main` closes the
sockets it finds in the array, and the database and the mutex with them, without
waiting for any handler; a handler that is still there closes its socket itself,
or is cut off before it can. From the moment `main` has left its loop, the
sockets are closed once each and nothing is used after its release, whatever
happens next, exactly when no handler is left.
-/

import SchoolMeals.Slots

namespace SchoolMeals

open Transition Tenancy

/-! ### What a clean end is -/

/-- A handler enters `clients_mutex`. -/
def Record.entersHandler : Record → Bool
  | .entered (.handler _) => true
  | _ => false

/-- No accepted socket is closed more often than it was accepted. -/
def NoneClosedTwice (threads : Threads) : Prop :=
  ∀ socket, .accepted socket ∈ threads.log →
    threads.log.count (.closed socket) ≤ threads.log.count (.accepted socket)

/-- When `main` has returned, every accepted socket was closed as often as it was accepted. -/
def AllClosed (threads : Threads) : Prop :=
  threads.main = .returned → ∀ socket, .accepted socket ∈ threads.log →
    threads.log.count (.closed socket) = threads.log.count (.accepted socket)

/-- No handler enters the mutex after it was deleted. -/
def MutexInTime (threads : Threads) : Prop :=
  threads.log.Pairwise fun later earlier =>
    later.entersHandler = true → earlier ≠ .deletedMutex

/-- No handler uses the database after it was closed. -/
def DbInTime (threads : Threads) : Prop :=
  threads.log.Pairwise fun later earlier => later = .usedDb → earlier ≠ .closedDb

instance (threads : Threads) : Decidable (MutexInTime threads) :=
  inferInstanceAs (Decidable (List.Pairwise _ _))

instance (threads : Threads) : Decidable (DbInTime threads) :=
  inferInstanceAs (Decidable (List.Pairwise _ _))

/-- So far every socket is closed once and nothing is used after its release. -/
structure EndsCleanly (threads : Threads) : Prop where
  once : NoneClosedTwice threads
  all : AllClosed threads
  mutex : MutexInTime threads
  db : DbInTime threads

/-- Every handler has returned. -/
def AllReturned (threads : Threads) : Prop :=
  ∀ (number : Nat) (handler : Handler), threads.handlers[number]? = some handler →
    handler.stage = .returned

/-! ### Before the end -/

/-- `main` releases the database and the mutex only after it has left its loop. -/
theorem unreleased_of_runs {turns : List Turn} {threads : Threads}
    (runs : Runs ThreadStep .start turns threads)
    (settled : threads.main.inLoop = true ∨ threads.main = .sweeping 0) :
    .closedDb ∉ threads.log ∧ .deletedMutex ∉ threads.log := by
  revert settled
  refine runs.invariant
    (fun _ threads => threads.main.inLoop = true ∨ threads.main = .sweeping 0 →
      .closedDb ∉ threads.log ∧ .deletedMutex ∉ threads.log)
    (fun _ => ⟨List.not_mem_nil, List.not_mem_nil⟩)
    fun _ before turn after _ _ stepped keeps settled => ?_
  obtain ⟨_, rfl | moved | ⟨number, handler, found, moved⟩⟩ := step_cases stepped
  · exact keeps settled
  · have inLoop := inLoop_of_mainMove moved settled
    have unreleased := keeps (.inl inLoop)
    cases moved with
    | closesDb stand =>
      rw [stand] at inLoop
      cases inLoop
    | deletesMutex stand =>
      rw [stand] at inLoop
      cases inLoop
    | _ =>
      simpa [Threads.mainAt, Threads.record, Threads.closeSocket, Threads.enterMutex,
        Threads.leaveMutex, Threads.setSocket] using unreleased
  · rw [main_of_handlerMove moved] at settled
    have unreleased := keeps settled
    cases moved <;>
      simpa [Threads.handlerAt, Threads.record, Threads.closeSocket, Threads.enterMutex,
        Threads.leaveMutex, Threads.setSocket] using unreleased

/-- While nothing is released, nothing is used too late. -/
theorem inTime_of_unreleased {threads : Threads}
    (unreleased : .closedDb ∉ threads.log ∧ .deletedMutex ∉ threads.log) :
    MutexInTime threads ∧ DbInTime threads := by
  refine ⟨List.pairwise_of_forall_mem_list fun _ _ earlier member _ => ?_,
    List.pairwise_of_forall_mem_list fun _ _ earlier member _ => ?_⟩
  · rintro rfl
    exact unreleased.2 member
  · rintro rfl
    exact unreleased.1 member

/-- Before `main` begins to close the sockets that are left, everything is in order. -/
theorem endsCleanly_of_settled {turns : List Turn} {threads : Threads}
    (runs : Runs ThreadStep .start turns threads)
    (settled : threads.main.inLoop = true ∨ threads.main = .sweeping 0) :
    EndsCleanly threads := by
  have inTime := inTime_of_unreleased (unreleased_of_runs runs settled)
  refine ⟨fun socket _ => (owned_of_runs runs settled).sound.closes_le_opens socket,
    fun returned => ?_, inTime.1, inTime.2⟩
  rw [returned] at settled
  exact absurd settled (by simp [MainStage.inLoop])

/-! ### An end without handlers -/

/-- `main` closes what is left and finds nothing. -/
structure Deserted (threads : Threads) : Prop where
  returned : AllReturned threads
  left : threads.main.inLoop = false ∧ ∀ index, threads.main ≠ .occupied index
  empty : ∀ index, index < maxClients → threads.clientSockets index = 0
  balanced : ∀ socket,
    threads.log.count (.closed socket) = threads.log.count (.accepted socket)
  mutex : MutexInTime threads
  db : DbInTime threads

namespace Deserted

theorem endsCleanly {threads : Threads} (deserted : Deserted threads) : EndsCleanly threads :=
  ⟨fun socket _ => Nat.le_of_eq (deserted.balanced socket), fun _ socket _ =>
    deserted.balanced socket, deserted.mutex, deserted.db⟩

/-- `main` only moved on. -/
theorem mainAt {threads : Threads} (deserted : Deserted threads) {stage : MainStage}
    (left : stage.inLoop = false ∧ ∀ index, stage ≠ .occupied index) :
    Deserted (threads.mainAt stage) :=
  ⟨deserted.returned, left, deserted.empty, deserted.balanced, deserted.mutex, deserted.db⟩

/-- A release is neither an entry nor a use. -/
theorem record {threads : Threads} (deserted : Deserted threads) {entry : Record}
    (isRelease : entry = .closedDb ∨ entry = .deletedMutex) : Deserted (threads.record entry) := by
  refine ⟨deserted.returned, deserted.left, deserted.empty, fun socket => ?_,
    List.pairwise_cons.mpr ⟨fun _ _ enters => ?_, deserted.mutex⟩,
    List.pairwise_cons.mpr ⟨fun _ _ uses => ?_, deserted.db⟩⟩
  · have balanced := deserted.balanced socket
    rcases isRelease with rfl | rfl <;> simpa [Threads.record] using balanced
  · rcases isRelease with rfl | rfl <;> cases enters
  · rcases isRelease with rfl | rfl <;> cases uses

theorem step {before after : Threads} {turn : Turn} (deserted : Deserted before)
    (stepped : ThreadStep before turn after) : Deserted after := by
  obtain ⟨_, rfl | moved | ⟨number, handler, found, moved⟩⟩ := step_cases stepped
  · exact ⟨deserted.returned, deserted.left, deserted.empty, deserted.balanced, deserted.mutex,
      deserted.db⟩
  · have left := deserted.left.1
    cases moved with
    | skips index stand => exact deserted.mainAt ⟨rfl, nofun⟩
    | meets index stand bound taken => exact absurd (deserted.empty index bound) taken
    | swept index stand => exact deserted.mainAt ⟨rfl, nofun⟩
    | closes index stand => exact absurd stand (deserted.left.2 index)
    | closesServer stand => exact deserted.mainAt ⟨rfl, nofun⟩
    | closesDb stand => exact (deserted.record (.inl rfl)).mainAt ⟨rfl, nofun⟩
    | deletesMutex stand => exact (deserted.record (.inr rfl)).mainAt ⟨rfl, nofun⟩
    | returns stand => exact deserted.mainAt ⟨rfl, nofun⟩
    | _ => simp_all [MainStage.inLoop]
  · have returned := deserted.returned number handler found
    cases moved <;> simp_all

theorem runs {threads final : Threads} {more : List Turn} (deserted : Deserted threads)
    (runs : Runs ThreadStep threads more final) : Deserted final :=
  runs.invariant (fun _ threads => Deserted threads) deserted
    fun _ _ _ _ _ _ stepped before => before.step stepped

end Deserted

/-- When `main` leaves its loop and every handler has returned, nothing is left. -/
theorem deserted_of_allReturned {turns : List Turn} {threads : Threads}
    (runs : Runs ThreadStep .start turns threads) (begins : threads.main = .sweeping 0)
    (returned : AllReturned threads) : Deserted threads := by
  have owned := owned_of_runs runs (.inr begins)
  have inTime := inTime_of_unreleased (unreleased_of_runs runs (.inr begins))
  have nobody : ∀ party, threads.tenancy.share party = none := by
    intro party
    cases party with
    | main =>
      show threads.main.share = none
      rw [begins]
      rfl
    | handler number =>
      show (threads.handlers[number]?).bind Handler.share = none
      cases found : threads.handlers[number]? with
      | none => rfl
      | some handler =>
        show handler.share = none
        rw [Handler.share, returned number handler found]
  have left : threads.main.inLoop = false ∧ ∀ index, threads.main ≠ .occupied index := by
    rw [begins]
    exact ⟨rfl, fun index stands => by cases stands⟩
  refine ⟨returned, left, fun index bound => ?_, fun socket => ?_, inTime.1, inTime.2⟩
  · by_contra occupied
    obtain ⟨party, own, has, _⟩ := owned.sound.tenant index _
      (Threads.table_of_ne bound occupied)
    exact absurd (has.symm.trans (nobody party)) (by simp)
  · refine (owned.sound.balanced socket fun party own has => ?_).symm
    exact absurd (has.symm.trans (nobody party)) (by simp)

/-! ### Who is in the mutex -/

def HandlerStage.inside : HandlerStage → Bool
  | .scanning _ | .matched _ | .unlocking => true
  | _ => false

def MainStage.inside : MainStage → Bool
  | .searching .. | .vacant .. | .searched .. => true
  | _ => false

/-- The thread stands between entering and leaving the mutex. -/
def Threads.inside (threads : Threads) : Owner → Bool
  | .main => threads.main.inside
  | .handler number => (threads.handlers[number]?).any (·.stage.inside)

section Inside

variable {threads : Threads} {number : Nat} {handler old : Handler} {stage : HandlerStage}
  (found : threads.handlers[number]? = some old)

include found

theorem inside_self :
    (threads.handlerAt number handler stage).inside (.handler number) = stage.inside := by
  show ((threads.handlerAt number handler stage).handlers[number]?).any (·.stage.inside) = _
  rw [Threads.getElem?_handlerAt found, if_pos rfl]
  rfl

/-- A handler that moves does not leave by it, unless it was outside. -/
theorem inside_handlerAt {owner : Owner} (inside : threads.inside owner = true)
    (stays : old.stage.inside = true → stage.inside = true) :
    (threads.handlerAt number handler stage).inside owner = true := by
  cases owner with
  | main => exact inside
  | handler other =>
    by_cases same : number = other
    · subst same
      have wasInside : (threads.handlers[number]?).any (·.stage.inside) = true := inside
      rw [found] at wasInside
      rw [inside_self found]
      exact stays wasInside
    · show ((threads.handlerAt number handler stage).handlers[other]?).any (·.stage.inside) = true
      rw [Threads.getElem?_handlerAt found, if_neg same]
      exact inside

end Inside

/-- `main` moves inside or outside, and leaves by giving the mutex back. -/
theorem inside_of_mainMove {before after : Threads} (moved : MainMove before after)
    (keeps : ∀ owner, before.clientsMutex = some owner → before.inside owner = true)
    (owner : Owner) (has : after.clientsMutex = some owner) : after.inside owner = true := by
  cases moved with
  | enters socket stand free =>
    obtain rfl : Owner.main = owner := Option.some.inj has
    rfl
  | leaves => cases has
  | creates socket index stand place =>
    have inside := keeps owner has
    cases owner with
    | main =>
      have wasInside : before.main.inside = true := inside
      rw [stand] at wasInside
      cases wasInside
    | handler number =>
      obtain ⟨handler, found, inside⟩ := (Option.any_eq_true _ _).mp inside
      show ((before.handlers ++ _)[number]?).any _ = true
      rw [List.getElem?_append_left (List.getElem?_eq_some_iff.mp found).1, found]
      exact inside
  | _ =>
    have inside := keeps owner has
    cases owner with
    | main => simp_all [Threads.inside, Threads.mainAt, MainStage.inside]
    | handler number => exact inside

/-- Whoever has the mutex is inside. -/
theorem inside_of_runs {turns : List Turn} {threads : Threads}
    (runs : Runs ThreadStep .start turns threads) (owner : Owner)
    (has : threads.clientsMutex = some owner) : threads.inside owner = true := by
  revert owner
  refine runs.invariant
    (fun _ threads => ∀ owner, threads.clientsMutex = some owner → threads.inside owner = true)
    (fun owner impossible => nomatch impossible)
    fun _ before turn after _ _ stepped keeps owner has => ?_
  obtain ⟨_, rfl | moved | ⟨number, handler, found, moved⟩⟩ := step_cases stepped
  · exact keeps owner has
  · exact inside_of_mainMove moved keeps owner has
  · cases moved with
    | queries => exact keeps owner has
    | enters stage free =>
      obtain rfl : Owner.handler number = owner := Option.some.inj has
      exact inside_self (show (before.enterMutex _).handlers[number]? = some handler from found)
    | leaves stage => cases has
    | clears index stage =>
      exact inside_handlerAt (show (before.setSocket index 0).handlers[number]? = some handler
        from found) (keeps owner has) fun _ => rfl
    | closes stage =>
      refine inside_handlerAt (show (before.closeSocket handler.clientSocket).handlers[number]? =
        some handler from found) (keeps owner has) fun inside => ?_
      rw [stage] at inside
      cases inside
    | finds | passes | exhausts => exact inside_handlerAt found (keeps owner has) fun _ => rfl
    | reads stage | tests stage | receives _ stage | replies stage =>
      refine inside_handlerAt found (keeps owner has) fun inside => ?_
      rw [stage] at inside
      cases inside

/-! ### An end with a handler -/

/-- A handler can go on to where it has released its entry and not closed its socket, while
`main` stands still. -/
def CanRelease (threads : Threads) (number : Nat) : Prop :=
  ∃ (more : List Turn) (later : Threads) (handler : Handler),
    Runs ThreadStep threads more later ∧ later.main = threads.main ∧
      later.handlers[number]? = some handler ∧
      (handler.stage = .unlocking ∨ handler.stage = .closing)

section Alone

variable {threads : Threads} {number : Nat} {handler : Handler}
  (alive : threads.main ≠ .returned) (found : threads.handlers[number]? = some handler)

include alive found

theorem step_handler {after : Threads} {outside : Outside}
    (moved : handlerStep number handler outside threads = some after) :
    ThreadStep threads (.handler number outside) after := by
  unfold ThreadStep Threads.step
  rw [if_neg alive]
  show (threads.handlers[number]?).bind _ = _
  rw [found]
  exact moved

/-- It can if it can after one step. -/
theorem canRelease_of_step {middle : Threads} {moved : Handler} {stage : HandlerStage}
    {outside : Outside}
    (step : handlerStep number handler outside threads = some (middle.handlerAt number moved stage))
    (sameMain : middle.main = threads.main) (sameHandlers : middle.handlers = threads.handlers)
    (next : (middle.handlerAt number moved stage).main ≠ .returned →
      (middle.handlerAt number moved stage).handlers[number]? = some { moved with stage } →
        CanRelease (middle.handlerAt number moved stage) number) :
    CanRelease threads number := by
  have nextMain : (middle.handlerAt number moved stage).main = threads.main := sameMain
  have nextFound : (middle.handlerAt number moved stage).handlers[number]? =
      some { moved with stage } := by
    rw [Threads.getElem?_handlerAt (sameHandlers ▸ found), if_pos rfl]
  obtain ⟨more, later, last, runs, main, lastFound, released⟩ :=
    next (nextMain ▸ alive) nextFound
  exact ⟨_, later, last, (Runs.nil.snoc (step_handler alive found step)).append runs,
    main.trans nextMain, lastFound, released⟩

theorem canRelease_of_matched {index : Nat} (stage : handler.stage = .matched index) :
    CanRelease threads number := by
  have step : handlerStep number handler .nothing threads =
      some ((threads.setSocket index 0).handlerAt number handler .unlocking) := by
    simp only [handlerStep, stage]
  exact canRelease_of_step alive found step rfl rfl fun _ nextFound =>
    ⟨[], _, _, .nil, rfl, nextFound, .inl rfl⟩

/-- The scan ends, at its own entry or at the end of the array. -/
theorem canRelease_of_scanning {index : Nat} (stage : handler.stage = .scanning index) :
    CanRelease threads number := by
  induction left : maxClients - index generalizing index threads handler with
  | zero =>
    have bound : ¬ index < maxClients := by omega
    have step : handlerStep number handler .nothing threads =
        some (threads.handlerAt number handler .unlocking) := by
      simp only [handlerStep, stage, if_neg bound]
    exact canRelease_of_step alive found step rfl rfl fun _ nextFound =>
      ⟨[], _, _, .nil, rfl, nextFound, .inl rfl⟩
  | succ left inductionHypothesis =>
    have bound : index < maxClients := by omega
    by_cases holds : threads.clientSockets index = handler.clientSocket
    · have step : handlerStep number handler .nothing threads =
          some (threads.handlerAt number handler (.matched index)) := by
        simp only [handlerStep, stage, if_pos bound, if_pos holds]
      exact canRelease_of_step alive found step rfl rfl fun alive nextFound =>
        canRelease_of_matched alive nextFound rfl
    · have step : handlerStep number handler .nothing threads =
          some (threads.handlerAt number handler (.scanning (index + 1))) := by
        simp only [handlerStep, stage, if_pos bound, if_neg holds]
      exact canRelease_of_step alive found step rfl rfl fun alive nextFound =>
        inductionHypothesis alive nextFound rfl (by omega)

/-- Outside the mutex a handler needs it to be free. -/
theorem canRelease_of_leaving (free : threads.clientsMutex = none)
    (stage : handler.stage = .leaving) : CanRelease threads number := by
  have step : handlerStep number handler .nothing threads =
      some ((threads.enterMutex (.handler number)).handlerAt number handler (.scanning 0)) := by
    simp only [handlerStep, stage, if_pos free]
  exact canRelease_of_step alive found step rfl rfl fun alive nextFound =>
    canRelease_of_scanning alive nextFound rfl

theorem canRelease_of_receiving (free : threads.clientsMutex = none)
    (stage : handler.stage = .receiving) : CanRelease threads number := by
  have step : handlerStep number handler (.recv false) threads =
      some (threads.handlerAt number handler .leaving) := by
    simp only [handlerStep, stage, Bool.false_eq_true, if_false]
  exact canRelease_of_step alive found step rfl rfl fun alive nextFound =>
    canRelease_of_leaving alive nextFound free rfl

theorem canRelease_of_looping (free : threads.clientsMutex = none)
    (stage : handler.stage = .looping) : CanRelease threads number := by
  cases running : threads.running with
  | true =>
    have step : handlerStep number handler .nothing threads =
        some (threads.handlerAt number handler .receiving) := by
      simp only [handlerStep, stage, running, if_true]
    exact canRelease_of_step alive found step rfl rfl fun alive nextFound =>
      canRelease_of_receiving alive nextFound free rfl
  | false =>
    have step : handlerStep number handler .nothing threads =
        some (threads.handlerAt number handler .leaving) := by
      simp only [handlerStep, stage, running, Bool.false_eq_true, if_false]
    exact canRelease_of_step alive found step rfl rfl fun alive nextFound =>
      canRelease_of_leaving alive nextFound free rfl

/-- A handler that has not returned can release its entry, if the mutex is free or its own. -/
theorem canRelease (free : threads.clientsMutex = none ∨ handler.stage.inside = true)
    (unfinished : handler.stage ≠ .returned) : CanRelease threads number := by
  have outside : handler.stage.inside = false → threads.clientsMutex = none := fun outside =>
    free.resolve_right fun inside => Bool.false_ne_true (outside.symm.trans inside)
  cases stage : handler.stage with
  | created =>
    have step : handlerStep number handler .nothing threads = some (threads.handlerAt number
        { handler with clientSocket := threads.clientSockets handler.slot } .looping) := by
      simp only [handlerStep, stage]
    exact canRelease_of_step alive found step rfl rfl fun alive nextFound =>
      canRelease_of_looping alive nextFound (outside (by rw [stage]; rfl)) rfl
  | looping => exact canRelease_of_looping alive found (outside (by rw [stage]; rfl)) stage
  | receiving => exact canRelease_of_receiving alive found (outside (by rw [stage]; rfl)) stage
  | answering =>
    have step : handlerStep number handler .replied threads =
        some (threads.handlerAt number handler .looping) := by
      simp only [handlerStep, stage]
    exact canRelease_of_step alive found step rfl rfl fun alive nextFound =>
      canRelease_of_looping alive nextFound (outside (by rw [stage]; rfl)) rfl
  | leaving => exact canRelease_of_leaving alive found (outside (by rw [stage]; rfl)) stage
  | scanning index => exact canRelease_of_scanning alive found stage
  | matched index => exact canRelease_of_matched alive found stage
  | unlocking => exact ⟨[], threads, handler, .nil, rfl, found, .inl stage⟩
  | closing => exact ⟨[], threads, handler, .nil, rfl, found, .inr stage⟩
  | returned => exact absurd stage unfinished

end Alone

/-! ### `main` alone -/

theorem step_main {threads after : Threads} {outside : Outside}
    (alive : threads.main ≠ .returned) (moved : mainStep outside threads = some after) :
    ThreadStep threads (.main outside) after := by
  unfold ThreadStep Threads.step
  rw [if_neg alive]
  exact moved

/-- `main` can return without waiting for anybody and without closing this socket. -/
def CanReturn (threads : Threads) (socket : Socket) : Prop :=
  ∃ (more : List Turn) (final : Threads), Runs ThreadStep threads more final ∧
    final.main = .returned ∧
    final.log.count (.closed socket) = threads.log.count (.closed socket) ∧
    final.log.count (.accepted socket) = threads.log.count (.accepted socket)

section Returns

variable {threads : Threads} {socket : Socket}

theorem canReturn_of_step {after : Threads} {outside : Outside}
    (step : mainStep outside threads = some after) (alive : threads.main ≠ .returned)
    (closed : after.log.count (.closed socket) = threads.log.count (.closed socket))
    (accepted : after.log.count (.accepted socket) = threads.log.count (.accepted socket))
    (next : CanReturn after socket) : CanReturn threads socket := by
  obtain ⟨more, final, runs, returned, sameClosed, sameAccepted⟩ := next
  exact ⟨_, final, (Runs.nil.snoc (step_main alive step)).append runs, returned,
    sameClosed.trans closed, sameAccepted.trans accepted⟩

/-- The releases are neither accepts nor closes. -/
theorem canReturn_of_closingServer (stand : threads.main = .closingServer) :
    CanReturn threads socket := by
  have server : mainStep .nothing threads = some (threads.mainAt .closingDb) := by
    simp only [mainStep, stand]
  refine canReturn_of_step server (by simp [stand]) rfl rfl ?_
  have db : mainStep .nothing (threads.mainAt .closingDb) =
      some (((threads.mainAt .closingDb).record .closedDb).mainAt .deletingMutex) := rfl
  refine canReturn_of_step db nofun (List.count_cons_of_ne (by simp))
    (List.count_cons_of_ne (by simp)) ?_
  generalize (threads.mainAt .closingDb).record .closedDb = closed
  have mutex : mainStep .nothing (closed.mainAt .deletingMutex) =
      some (((closed.mainAt .deletingMutex).record .deletedMutex).mainAt .returning) := rfl
  refine canReturn_of_step mutex nofun (List.count_cons_of_ne (by simp))
    (List.count_cons_of_ne (by simp)) ?_
  generalize (closed.mainAt .deletingMutex).record .deletedMutex = deleted
  have returns : mainStep .nothing (deleted.mainAt .returning) =
      some ((deleted.mainAt .returning).mainAt .returned) := rfl
  exact canReturn_of_step returns nofun rfl rfl ⟨[], _, .nil, rfl, rfl, rfl⟩

/-- The sweep closes no socket that is not in the array. -/
theorem canReturn_of_sweeping {index : Nat} (stand : threads.main = .sweeping index)
    (absent : ∀ other, other < maxClients → threads.clientSockets other ≠ socket) :
    CanReturn threads socket := by
  have alive : threads.main ≠ .returned := by simp [stand]
  induction left : maxClients - index generalizing index threads with
  | zero =>
    have bound : ¬ index < maxClients := by omega
    have step : mainStep .nothing threads = some (threads.mainAt .closingServer) := by
      simp only [mainStep, stand, if_neg bound]
    exact canReturn_of_step step alive rfl rfl (canReturn_of_closingServer rfl)
  | succ left inductionHypothesis =>
    have bound : index < maxClients := by omega
    by_cases free : threads.clientSockets index = 0
    · have step : mainStep .nothing threads = some (threads.mainAt (.sweeping (index + 1))) := by
        simp only [mainStep, stand, if_pos bound, if_pos free]
      exact canReturn_of_step step alive rfl rfl
        (inductionHypothesis rfl absent nofun (by omega))
    · have meets : mainStep .nothing threads = some (threads.mainAt (.occupied index)) := by
        simp only [mainStep, stand, if_pos bound, if_neg free]
      have closes : mainStep .nothing (threads.mainAt (.occupied index)) =
          some (((threads.mainAt (.occupied index)).closeSocket
            (threads.clientSockets index)).mainAt (.sweeping (index + 1))) := rfl
      refine canReturn_of_step meets alive rfl rfl ?_
      refine canReturn_of_step closes nofun ?_ (List.count_cons_of_ne (by simp))
        (inductionHypothesis rfl absent nofun (by omega))
      exact List.count_cons_of_ne (by simpa using absent index bound)

end Returns

/-! ### When the end is clean -/

/-- A handler that is left can be cut off before it closes its socket. -/
theorem exists_unclean {turns : List Turn} {threads : Threads}
    (runs : Runs ThreadStep .start turns threads) (begins : threads.main = .sweeping 0)
    (unfinished : ¬ AllReturned threads) :
    ∃ (more : List Turn) (final : Threads), Runs ThreadStep threads more final ∧
      ¬ EndsCleanly final := by
  have alive : threads.main ≠ .returned := by simp [begins]
  -- the thread in the mutex, or else any handler that has not returned
  obtain ⟨number, handler, found, free, unreturned⟩ : ∃ (number : Nat) (handler : Handler),
      threads.handlers[number]? = some handler ∧
        (threads.clientsMutex = none ∨ handler.stage.inside = true) ∧
        handler.stage ≠ .returned := by
    cases has : threads.clientsMutex with
    | none =>
      simp only [AllReturned, not_forall] at unfinished
      obtain ⟨number, handler, found, unreturned⟩ := unfinished
      exact ⟨number, handler, found, .inl rfl, unreturned⟩
    | some owner =>
      have inside := inside_of_runs runs owner has
      cases owner with
      | main =>
        have mainInside : threads.main.inside = true := inside
        rw [begins] at mainInside
        cases mainInside
      | handler number =>
        obtain ⟨handler, found, inside⟩ := (Option.any_eq_true _ _).mp inside
        refine ⟨number, handler, found, .inr inside, ?_⟩
        intro returned
        rw [returned] at inside
        cases inside
  obtain ⟨more, middle, last, released, main, lastFound, stage⟩ :=
    canRelease alive found free unreturned
  have owned := owned_of_runs (runs.append released) (.inr (main.trans begins))
  have share : last.share = some ⟨last.connection, true, none⟩ := by
    unfold Handler.share
    rcases stage with stage | stage <;> rw [stage]
  have has := (Threads.share_handler lastFound).trans share
  have isOpen := owned.sound.kept _ _ has rfl
  -- its socket is in no entry any more, so `main` does not close it either
  have absent : ∀ index, index < maxClients → middle.clientSockets index ≠ last.connection := by
    intro index bound holds
    have nonzero : middle.clientSockets index ≠ 0 := by
      rw [holds]
      exact (owned.handlers number last lastFound).connection
    have taken := Threads.table_of_ne bound nonzero
    rw [holds] at taken
    cases owned.sound.seat_of_table has taken
  obtain ⟨rest, final, returns, returned, sameClosed, sameAccepted⟩ :=
    canReturn_of_sweeping (main.trans begins) absent
  refine ⟨_, final, released.append returns, fun clean => ?_⟩
  have counts : middle.log.count (.accepted last.connection) =
      middle.log.count (.closed last.connection) + 1 := isOpen
  have member : .accepted last.connection ∈ final.log := by
    rw [← List.count_pos_iff, sameAccepted, counts]
    exact Nat.succ_pos _
  have closed := clean.all returned last.connection member
  rw [sameClosed, sameAccepted, counts] at closed
  exact absurd closed (Nat.ne_of_lt (Nat.lt_succ_self _))

/-- Up to the end of its loop everything is in order; from there on, whatever happens, exactly
when no handler is left. -/
theorem endsCleanly_iff {turns : List Turn} {threads : Threads}
    (runs : Runs ThreadStep .start turns threads) :
    (threads.main.inLoop = true → EndsCleanly threads) ∧
      (threads.main = .sweeping 0 →
        ((∀ (more : List Turn) (final : Threads), Runs ThreadStep threads more final →
          EndsCleanly final) ↔ AllReturned threads)) := by
  refine ⟨fun inLoop => endsCleanly_of_settled runs (.inl inLoop), fun begins => ⟨fun clean => ?_,
    fun returned more final goesOn => ?_⟩⟩
  · by_contra unfinished
    obtain ⟨more, final, goesOn, unclean⟩ := exists_unclean runs begins unfinished
    exact unclean (clean more final goesOn)
  · exact ((deserted_of_allReturned runs begins returned).runs goesOn).endsCleanly

/-! ### Two ends -/

/-- The first client was served and has left when the server is stopped. -/
def quietEnd : List Turn :=
  acceptFirst 7 ++ [.main (.createThread true)] ++
    [.handler 0 .nothing, .handler 0 .nothing, .handler 0 (.recv false), .handler 0 .nothing,
      .handler 0 .nothing, .handler 0 .nothing, .handler 0 .nothing, .handler 0 .nothing] ++
    [.signal, .main .nothing]

theorem endsCleanly_quietEnd :
    ((Threads.reached quietEnd).main.inLoop = true → EndsCleanly (.reached quietEnd)) ∧
      ((Threads.reached quietEnd).main = .sweeping 0 →
        ((∀ (more : List Turn) (final : Threads),
          Runs ThreadStep (.reached quietEnd) more final → EndsCleanly final) ↔
            AllReturned (.reached quietEnd))) :=
  endsCleanly_iff (runs_reached quietEnd (by decide))

/-- The server is stopped while its handler answers a request. -/
def lateEnd : List Turn :=
  acceptFirst 7 ++ [.main (.createThread true)] ++
    [.handler 0 .nothing, .handler 0 .nothing, .handler 0 (.recv true), .signal] ++
    List.replicate 16 (.main .nothing) ++
    [.handler 0 .query, .handler 0 .replied, .handler 0 .nothing, .handler 0 .nothing,
      .handler 0 .nothing, .handler 0 .nothing, .handler 0 .nothing, .handler 0 .nothing]

/-- The socket is closed by both, and the handler uses the database and enters the mutex after
`main` has released them. -/
theorem lateEnd_unclean : ∃ threads, Runs ThreadStep .start lateEnd threads ∧
    ¬ NoneClosedTwice threads ∧ ¬ MutexInTime threads ∧ ¬ DbInTime threads := by
  refine ⟨.reached lateEnd, runs_reached lateEnd (by decide), fun once => ?_, by decide,
    by decide⟩
  exact absurd (once 7 (by decide)) (by decide)

end SchoolMeals
