/-
A call that fails changes nothing. Whatever state a session is in and whatever is
handed over, a call that answers another status than success leaves the whole session
as it was, table and allocators with all they hold, writes nothing to the caller's
place and logs nothing; so the calls after it go as if it had not been made. The one
status that comes with a change is that of a caught fault, and no call of a course
answers it as long as there are numbers for the chunks of its arenas.

Every exit is followed from the inside out: a refusal of an allocator, then of a
request to it, then of the call. A run then comes to the same session if the calls
that failed in it are struck out.
-/

import Allotment.Proofs.Boundary.Courses
import Allotment.Proofs.Boundary.Crowding

namespace Allotment

/-- Where the step is done with another status than success, nothing was written, the state is the
given one, and nothing was logged. -/
def Step.FailsIdly {σ : Type} (step : Step σ Reply) (state : σ) : Prop :=
  ∀ reply next events, step = .done reply next events → reply.status ≠ .ok →
    reply = .bare reply.status ∧ next = state ∧ events = []

namespace BuiltAllocator

/-! ### Refusals of an allocator -/

variable (allocator next : BuiltAllocator) (events : List Event)

theorem lend_refused (memory : Memory) (size : Nat) (cause : Refusal)
    (refused : allocator.lend memory size = .done (.error cause) next events) :
    next = allocator ∧ events = [] := by
  cases allocator with
  | arena allocator =>
    obtain ⟨after, inside, rfl⟩ := (Step.within_eq_done_iff _ _ _ _ _).mp refused
    obtain ⟨rfl, silent⟩ := allocator.tryAllocate_refused memory size cause after events inside
    exact ⟨rfl, silent⟩
  | system allocator =>
    obtain ⟨after, inside, rfl⟩ := (Step.within_eq_done_iff _ _ _ _ _).mp refused
    obtain ⟨rfl, silent⟩ := allocator.allocate_refused after size cause events memory inside
    exact ⟨rfl, silent⟩

theorem tryDeallocate_refused (handle : Handle) (size : Nat) (cause : Refusal)
    (refused : Allocator.tryDeallocate allocator handle size = .done (.error cause) next events) :
    next = allocator ∧ events = [] := by
  cases allocator with
  | arena allocator =>
    obtain ⟨after, inside, rfl⟩ := (Step.within_eq_done_iff _ _ _ _ _).mp refused
    obtain ⟨rfl, silent⟩ := allocator.tryDeallocate_refused handle size cause after events inside
    exact ⟨rfl, silent⟩
  | system allocator =>
    obtain ⟨after, inside, rfl⟩ := (Step.within_eq_done_iff _ _ _ _ _).mp refused
    obtain ⟨rfl, silent⟩ := allocator.tryDeallocate_refused after size cause events handle inside
    exact ⟨rfl, silent⟩

/-- A reset by force succeeds, a checked one may be refused, and a system allocator has none. -/
theorem reset_failed (force : Bool) (status : Status) (failed : status ≠ .ok)
    (done : allocator.reset force = .done status next events) : next = allocator ∧ events = [] := by
  cases allocator with
  | system allocator =>
    cases done
    exact ⟨rfl, rfl⟩
  | arena allocator =>
    cases force with
    | true =>
      cases done
      exact absurd rfl failed
    | false =>
      obtain ⟨after, inside, rfl⟩ := (Step.within_eq_done_iff _ _ _ _ _).mp done
      obtain ⟨answer, reset, rfl⟩ := (Step.mapAnswer_eq_done_iff _ _ _ _ _).mp inside
      rw [SegregatedAllocator.tryReset] at reset
      by_cases lending : 0 < allocator.live
      · rw [if_pos lending] at reset
        cases reset
        exact ⟨rfl, rfl⟩
      · rw [if_neg lending] at reset
        cases reset
        exact absurd rfl failed

end BuiltAllocator

namespace Request

/-! ### Failed requests -/

/-- A failed request wrote nothing, and left its allocator as it was. -/
theorem serve_failsIdly (memory : Memory) (allocator : BuiltAllocator) (request : Request) :
    (request.serve memory allocator).FailsIdly allocator := by
  intro reply next events done failed
  cases request with
  | allocate size result =>
    obtain ⟨answer, lent, rfl⟩ := (Step.mapAnswer_eq_done_iff _ _ _ _ _).mp done
    cases answer with
    | ok handle => exact absurd rfl failed
    | error cause => exact ⟨rfl, allocator.lend_refused next events memory size cause lent⟩
  | deallocate block size =>
    obtain ⟨answer, released, rfl⟩ := (Step.mapAnswer_eq_done_iff _ _ _ _ _).mp done
    cases answer with
    | ok _ => exact absurd rfl failed
    | error cause =>
      exact ⟨rfl, allocator.tryDeallocate_refused next events block.handle size cause released⟩
  | write block source size =>
    rw [serve] at done
    cases written : Allocator.store? allocator block.handle size
        fun position => source.map (· position) with
    | none =>
      rw [written] at done
      cases done
      exact ⟨rfl, rfl, rfl⟩
    | some stored =>
      rw [written] at done
      cases done
      exact absurd rfl failed
  | read block target size =>
    rw [serve] at done
    cases found : Allocator.words? allocator block.handle size with
    | none =>
      rw [found] at done
      cases done
      exact ⟨rfl, rfl, rfl⟩
    | some contents =>
      rw [found] at done
      cases done
      exact absurd rfl failed
  | reset force =>
    obtain ⟨status, reset, rfl⟩ := (Step.mapAnswer_eq_done_iff _ _ _ _ _).mp done
    exact ⟨rfl, allocator.reset_failed next events force status failed reset⟩
  | liveCount result =>
    cases done
    exact absurd rfl failed

/-- A reply that needs no allocator writes nothing if it tells of a failure. -/
theorem early?_failed (request : Request) (reply : Reply) (early : request.early? = some reply)
    (failed : reply.status ≠ .ok) : reply = .bare reply.status := by
  unfold early? at early
  split at early
  · cases early
    rfl
  · cases early
    rfl
  · split_ifs at early <;> cases early <;> rfl
  · next block target size =>
    by_cases none : size = 0
    · rw [if_pos none] at early
      cases early
      exact absurd rfl failed
    · rw [if_neg none] at early
      split_ifs at early
      cases early
      rfl
  · cases early

end Request

namespace Session

/-! ### Failed calls -/

/-- Work that fails idly on the table fails idly on the session, unless a fault is caught. -/
theorem withTable_failed (session : Session)
    (work : KeyTable BuiltAllocator → Step (KeyTable BuiltAllocator) Reply)
    (idle : (work session.table).FailsIdly session.table)
    (failed : (session.withTable work).2.1.status ≠ .ok)
    (unbroken : (session.withTable work).2.1.status ≠ .panicked) :
    session.withTable work = session.replied (.bare (session.withTable work).2.1.status) := by
  unfold withTable at failed unbroken ⊢
  by_cases spoiled : session.spoiled = true
  · rw [if_pos spoiled]
    rfl
  · rw [if_neg spoiled] at failed unbroken ⊢
    cases outcome : work session.table with
    | fault reason events =>
      rw [outcome] at unbroken
      exact absurd rfl unbroken
    | done reply next events =>
      rw [outcome] at failed
      obtain ⟨nothing, rfl, rfl⟩ := idle reply next events outcome failed
      exact congrArg session.replied nothing

theorem register_failsIdly (allocator : BuiltAllocator) (table : KeyTable BuiltAllocator) :
    (register allocator table).FailsIdly table := by
  intro reply next events done failed
  unfold register at done
  split at done
  · cases done
  · cases done
    exact ⟨rfl, rfl, rfl⟩
  · cases done
    exact absurd rfl failed

theorem unregister_failsIdly (key : UInt64) (table : KeyTable BuiltAllocator) :
    (unregister key table).FailsIdly table := by
  intro reply next events done failed
  unfold unregister at done
  split at done
  · cases done
  · cases done
    exact ⟨rfl, rfl, rfl⟩
  · cases done
    exact absurd rfl failed

theorem serve_failsIdly (memory : Memory) (key : UInt64) (request : Request)
    (table : KeyTable BuiltAllocator) : (serve memory key request table).FailsIdly table := by
  intro reply next events done failed
  unfold serve at done
  cases found : table.get? key with
  | none =>
    rw [found] at done
    cases done
    exact ⟨rfl, rfl, rfl⟩
  | some allocator =>
    rw [found] at done
    obtain ⟨after, served, rfl⟩ := (Step.within_eq_done_iff _ _ _ _ _).mp done
    obtain ⟨nothing, rfl, silent⟩ :=
      request.serve_failsIdly memory allocator reply after events served failed
    -- the allocator goes back under its key as it was found there
    exact ⟨nothing, KeyTable.update_same found, silent⟩

theorem perform_failed (session : Session) (memory : Memory) (call : Call)
    (failed : (session.perform memory call).2.1.status ≠ .ok)
    (unbroken : (session.perform memory call).2.1.status ≠ .panicked) :
    session.perform memory call =
      session.replied (.bare (session.perform memory call).2.1.status) := by
  cases call with
  | createArena chunkWords result =>
    cases result with
    | missing => rfl
    | given =>
      rw [perform] at failed unbroken ⊢
      cases created : SegregatedAllocator.create (arenaConfig chunkWords) with
      | error cause => rfl
      | ok allocator =>
        rw [created] at failed unbroken
        exact session.withTable_failed _ (register_failsIdly _ _) failed unbroken
  | createSystem result =>
    cases result with
    | missing => rfl
    | given => exact session.withTable_failed _ (register_failsIdly _ _) failed unbroken
  | destroy key => exact session.withTable_failed _ (unregister_failsIdly key _) failed unbroken
  | onAllocator key request =>
    rw [perform] at failed unbroken ⊢
    cases early : request.early? with
    | some reply =>
      rw [early] at failed
      exact congrArg session.replied (request.early?_failed reply early failed)
    | none =>
      rw [early] at failed unbroken
      exact session.withTable_failed _ (serve_failsIdly memory key request _) failed unbroken
  | count result =>
    cases result with
    | missing => rfl
    | given =>
      refine session.withTable_failed _ (fun reply next events done wrong => ?_) failed unbroken
      cases done
      exact absurd rfl wrong

/-! ### Continuations -/

/-- Calls in a row, the first one first, each with memory of its own: what each of them answered
and logged, and the session after the last. -/
def performAll (session : Session) :
    List (Memory × Call) → List (Reply × List Event) × Session
  | [] => ([], session)
  | (memory, call) :: later =>
    let performed := session.perform memory call
    let continued := performAll performed.1 later
    (performed.2 :: continued.1, continued.2)

/-- No call of a course answers that it panicked. -/
theorem unbroken_of_course (chunks : Nat) (transcript : Transcript) (session : Session)
    (course : Course chunks transcript session) (few : max chunks session.mostChunks ≤ 2 ^ 32)
    (memory : Memory) (call : Call) : (session.perform memory call).2.1.status ≠ .panicked := by
  have isolated :=
    isolated_of_course _ _ _ (course.call chunks transcript session memory call) few
  exact (not_or.mp (isolated.served _ List.mem_cons_self)).1

/-- A call that answers another status than success leaves the session as it was, writes nothing
to the caller's place and logs nothing, and every continuation goes as if the call had not been
made. Only the status of a caught fault is excepted, and no call answers it in a session that calls
lead to, as long as no arena had more than 2^32 chunks when one of them was made and none has
now. -/
theorem failed_call_changes_nothing (session next : Session) (memory : Memory) (call : Call)
    (reply : Reply) (events : List Event)
    (performed : session.perform memory call = (next, reply, events))
    (failed : reply.status ≠ .ok) :
    (reply.status ≠ .panicked →
      next = session ∧ reply.output = none ∧ events = [] ∧
      ∀ later, session.performAll ((memory, call) :: later) =
        ((.bare reply.status, []) :: (session.performAll later).1,
          (session.performAll later).2)) ∧
    ∀ chunks transcript, Course chunks transcript session →
      max chunks session.mostChunks ≤ 2 ^ 32 → reply.status ≠ .panicked := by
  constructor
  · intro unbroken
    have unchanged := session.perform_failed memory call
    rw [performed] at unchanged
    have same := unchanged failed unbroken
    have nothing : reply = .bare reply.status := congrArg (fun answer => answer.2.1) same
    obtain rfl : next = session := congrArg Prod.fst same
    obtain rfl : events = [] := congrArg (fun answer => answer.2.2) same
    refine ⟨rfl, congrArg Reply.output nothing, rfl, fun later => ?_⟩
    rw [performAll, performed, ← nothing]
  · intro chunks transcript course few
    have unbroken := unbroken_of_course chunks transcript session course few memory call
    rwa [performed] at unbroken

/-- A block of three words is released as one of two. -/
theorem wrong_size_changes_nothing :
    let session := (empty.performAll [(.addressable, .createArena 8 .given),
      (.addressable, .onAllocator 0 (.allocate 3 .given))]).2
    session.table.live = 1 ∧
    session.perform .addressable (.onAllocator 0 (.deallocate ⟨0, 0⟩ 2)) =
      (session, .bare .sizeMismatch, []) := by
  intro session
  obtain ⟨same, _, silent, _⟩ := (failed_call_changes_nothing session _ .addressable
    (.onAllocator 0 (.deallocate ⟨0, 0⟩ 2)) _ _ rfl (by decide)).1 (by decide)
  exact ⟨by decide, Prod.ext same (Prod.ext (by decide) silent)⟩

/-- An arena has taken one more chunk than there are numbers: the release of its latest loan
answers that it panicked, and a call that was answered before is refused after it. -/
theorem failed_release_spoils_past_chunk_numbers :
    ∃ (chunks : Nat) (transcript : Transcript) (session next : Session) (events : List Event),
      Course chunks transcript session ∧
        session.perform .addressable (.onAllocator 0 (.deallocate ⟨0, 0⟩ 2)) =
          (next, .bare .panicked, events) ∧
        session.perform .addressable (.count .given) = (session, .wrote (.count 2), []) ∧
        next.perform .addressable (.count .given) = (next, .bare .internalError, []) := by
  obtain ⟨chunks, transcript, allocator, run, _, crowded, ran⟩ := exists_crowded_session
  exact ⟨chunks, transcript, _, _, _, course_of_run run,
    perform_deallocate_crowded crowded ran .addressable, rfl, rfl⟩

/-- A course comes to the same session without the calls that failed in it. -/
theorem course_of_succeeded (chunks : Nat) (transcript : Transcript) (session : Session)
    (course : Course chunks transcript session) (few : chunks ≤ 2 ^ 32) :
    ∃ fewer ≤ chunks, Course fewer (transcript.filter (·.reply.status = .ok)) session := by
  induction course with
  | start => exact ⟨0, Nat.le_refl 0, .start⟩
  | call chunks transcript session memory call course inductionHypothesis =>
    obtain ⟨fewer, less, kept⟩ := inductionHypothesis (Nat.max_le.mp few).1
    by_cases succeeded : (session.perform memory call).2.1.status = .ok
    · rw [List.filter_cons, if_pos (decide_eq_true succeeded)]
      exact ⟨_, max_le_max_right _ less, kept.call _ _ session memory call⟩
    · have unbroken := unbroken_of_course chunks transcript session course few memory call
      rw [List.filter_cons, if_neg (mt of_decide_eq_true succeeded),
        session.perform_failed memory call succeeded unbroken]
      exact ⟨fewer, Nat.le_trans less (Nat.le_max_left _ _), kept⟩

end Session

end Allotment
