/-
Allocators behind the boundary are isolated from each other. What a caller sees under a
live key is what an allocator would answer that nobody else uses; a key that is not live
reaches nothing; and no key is issued twice, so an old key never comes to reach another
caller's allocator.

What the callers share is the table, and a fault under one key would spoil it for all. So the
isolation goes as far as no call is a fault, which takes numbers for the chunks of every arena.
-/

import Allotment.Proofs.Boundary.Crowding
import Allotment.Proofs.Boundary.Lives

namespace Allotment

namespace Session

/-! ### Allocators that nobody else uses -/

/-- The allocator is the one that the life alone leads to, and it is in order. -/
def Alone (memory : Memory) (life : Life) (allocator : BuiltAllocator) : Prop :=
  (∃ events, life.founder.answerAll memory life.requests =
    .done life.replies allocator events) ∧ ∃ loans, allocator.Lends loans

theorem kept_alone (memory : Memory) : Kept memory (Alone memory) where
  lends _ _ related := related.2
  founded _ lends := ⟨⟨[], rfl⟩, [], lends⟩
  answered life allocator request reply next events related named answer := by
    obtain ⟨⟨logged, alone⟩, loans, lends⟩ := related
    obtain ⟨other, after, more, same, _, lendsAfter⟩ :=
      BuiltAllocator.leaves_answer lends named memory request
    rw [answer] at same
    cases same
    refine ⟨⟨logged ++ events, ?_⟩, _, lendsAfter⟩
    show BuiltAllocator.answerAll memory life.founder (request :: life.requests) = _
    rw [BuiltAllocator.answerAll, alone, Step.andThen, answer]
    rfl

theorem Follows.exists_allocator {memory : Memory} {life : Life} {found? : Option BuiltAllocator}
    (follows : Follows (Alone memory) (some life) found?) :
    ∃ allocator events, found? = some allocator ∧
      life.founder.answerAll memory life.requests = .done life.replies allocator events := by
  obtain ⟨allocator, found, ⟨events, alone⟩, _⟩ := follows.exists_related
  exact ⟨allocator, events, found, alone⟩

theorem isolated_of_run (memory : Memory) (chunks : Nat) (transcript : Transcript)
    (session : Session) (run : Run memory chunks transcript session) (few : chunks ≤ 2 ^ 32) :
    Isolated (Alone memory) transcript session := by
  induction run with
  | start => exact Isolated.empty _
  | call chunks transcript session call run inductionHypothesis =>
    obtain ⟨fewBefore, fewThen⟩ := Nat.max_le.mp few
    exact (inductionHypothesis fewBefore).performed (kept_alone memory)
      (session.named_of_mostChunks_le fewThen) call

/-- As long as no arena has more than 2^32 chunks when a call is made, callers across the boundary
cannot tell that others use it. Under every live key the replies were those of an allocator used
alone, and the key can be given up; every complete call under another key is refused and changes
nothing; the count of allocators is that of the keys issued and not given up; and no key is issued
twice. -/
theorem allocators_isolated (memory : Memory) (chunks : Nat) (transcript : Transcript)
    (session : Session) (run : Run memory chunks transcript session) (few : chunks ≤ 2 ^ 32) :
    (∀ key life, transcript.life? key = some life →
      (∃ allocator events, session.table.get? key = some allocator ∧
        life.founder.answerAll memory life.requests = .done life.replies allocator events) ∧
      ∃ next, session.perform memory (.destroy key) = (next, .bare .ok, [])) ∧
    (∀ key, transcript.life? key = none →
      session.perform memory (.destroy key) = (session, .bare .invalidHandle, []) ∧
        ∀ request, request.early? = none →
          session.perform memory (.onAllocator key request) =
            (session, .bare .invalidHandle, [])) ∧
    (∃ count, session.perform memory (.count .given) = (session, .wrote (.count count), []) ∧
      count + transcript.ended.length = transcript.issued.length) ∧
    transcript.issued.Nodup := by
  have isolated := isolated_of_run memory chunks transcript session run few
  refine ⟨fun key life lives => ?_, fun key unborn => ?_,
    ⟨_, isolated.perform_count, isolated.counted⟩, isolated.once⟩
  · have alone := (lives ▸ isolated.follows key).exists_allocator
    refine ⟨alone, ?_⟩
    obtain ⟨allocator, _, found, _⟩ := alone
    rcases isolated.perform_destroy_cases key with ⟨absent, _⟩ | ⟨table, _, _, _, granted⟩
    · rw [found] at absent
      cases absent
    · exact ⟨_, granted⟩
  · have absent := (unborn ▸ isolated.follows key).absent
    refine ⟨?_, fun request complete =>
      isolated.perform_onAllocator_dead key request complete absent⟩
    rcases isolated.perform_destroy_cases key with ⟨_, refused⟩ | ⟨_, present, _⟩
    · exact refused
    · rw [absent] at present
      cases present

/-- An arena and a system allocator are used in turns, the arena is given up, and its entry goes to
another allocator: the old key reaches nothing, and the one in between has its one block. -/
theorem isolated_after_recycling :
    ∃ (chunks : Nat) (transcript : Transcript) (session : Session),
      Run .addressable chunks transcript session ∧ chunks ≤ 2 ^ 32 ∧
      transcript.issued = [1, 0x100000000, 0] ∧ transcript.ended = [0] ∧
        session.perform .addressable (.onAllocator 0 (.allocate 2 .given)) =
          (session, .bare .invalidHandle, []) ∧
        ∃ life, transcript.life? 0x100000000 = some life ∧
          life.replies = [.wrote (.block (.ofHandle ⟨0, 0, 0⟩))] := by
  have opened : Run .addressable 0 [] Session.empty := .start
  have arena := opened.call _ _ _ (.createArena 8 .given)
  have system := arena.call _ _ _ (.createSystem .given)
  have lent := system.call _ _ _ (.onAllocator 0 (.allocate 3 .given))
  have other := lent.call _ _ _ (.onAllocator 0x100000000 (.allocate 3 .given))
  have ended := other.call _ _ _ (.destroy 0)
  have again := ended.call _ _ _ (.createSystem .given)
  have isolated := allocators_isolated _ _ _ _ again (by decide)
  exact ⟨_, _, _, again, by decide, by decide, by decide, (isolated.2.1 0 rfl).2 _ rfl, _, rfl, rfl⟩

/-- One caller's arena has taken one more chunk than there are numbers, and its latest loan is
released. Another caller is then refused one word by an allocator that would grant it if used
alone. -/
theorem not_isolated_past_chunk_numbers :
    ∃ (chunks : Nat) (transcript : Transcript) (session : Session),
      Run .addressable chunks transcript session ∧ session.table.entries.size = 2 ∧
        transcript.life? 0x100000000 =
          some ⟨.system .empty, [.allocate 1 .given], [.bare .internalError]⟩ ∧
        ∃ allocator, BuiltAllocator.answerAll .addressable (.system .empty) [.allocate 1 .given] =
          .done [.wrote (.block (.ofHandle ⟨0, 0, 0⟩))] allocator [] := by
  obtain ⟨chunks, transcript, allocator, run, idle, crowded, ran⟩ := exists_crowded_session
  have released := run.call _ _ _ (.onAllocator 0 (.deallocate ⟨0, 0⟩ 2))
  rw [perform_deallocate_crowded crowded ran] at released
  have refused := released.call _ _ _ (.onAllocator 0x100000000 (.allocate 1 .given))
  have idleStill := (transcript.life?_onAllocator 0 0x100000000 (.deallocate ⟨0, 0⟩ 2)
    (.bare .panicked) (by decide)).trans idle
  refine ⟨_, _, _, refused, rfl, ?_, _, rfl⟩
  rw [Transcript.life?_requested _ _ _ (by simp [Exchange.issued?]) (by simp [Exchange.ended?]) _
    rfl, idleStill]
  rfl

end Session

end Allotment
