/-
No call across the boundary panics, whatever the caller hands over: keys that were never
issued, references to blocks of other allocators, sizes of any kind, places that are missing.
Only the chunks of an arena must not come to be more than there are numbers for them. A fault would spoil the session and leave a message, so it is enough that neither ever comes
about; and it does not, because every allocator in the table has the blocks on loan that the
replies under its key tell, and an allocator in order serves every request.

A course is a run in which every call finds memory of its own, so reservations may fail at
any point. What is counted stays within what was reserved, so no counter runs over where the
reservations themselves do not.
-/

import Allotment.Proofs.Boundary.Lives

namespace Allotment

/-- The blocks on loan at the end of a life, as its replies tell. -/
def Life.loans (life : Life) : List Block :=
  (life.requests.zip life.replies).foldr
    (fun exchange loans => exchange.1.loansAfter loans exchange.2) []

theorem Life.loans_answered (life : Life) (request : Request) (reply : Reply) :
    (life.answered request reply).loans = request.loansAfter life.loans reply :=
  rfl

namespace BuiltAllocator

/-! ### Counters and copies -/

/-- No counter exceeds what was reserved: an arena counts blocks within the words that it carved,
and these within its chunks; a system allocator counts one slot for each block, and the words of
the blocks on loan. -/
def Within : BuiltAllocator → List Block → Prop
  | arena allocator, _ =>
    allocator.live + allocator.free.length ≤ allocator.arena.carvedWords ∧
      allocator.arena.carvedWords ≤ allocator.arena.capacityWords ∧
      ∀ chunk ∈ allocator.arena.chunks, chunk.used ≤ chunk.capacity
  | system allocator, loans =>
    allocator.live ≤ allocator.slots.size ∧ allocator.slots.size ≤ 2 ^ 32 ∧
      allocator.liveWords = (loans.map (·.size)).sum

variable {allocator : BuiltAllocator} {loans : List Block}

theorem Lends.within (lends : allocator.Lends loans) : allocator.Within loans := by
  cases allocator with
  | arena allocator =>
    obtain ⟨_, _, run, _⟩ := lends
    have counted := SegregatedAllocator.counted_of_run run
    exact ⟨counted.blocks, Nat.le_trans counted.arena.carved counted.arena.usedWords_le,
      counted.arena.used⟩
  | system allocator =>
    have sound : allocator.Sound loans := lends
    exact ⟨sound.live_le, sound.named, sound.liveWords⟩

/-- As many words are read as were asked for. -/
theorem length_of_words? (allocator : BuiltAllocator) (handle : Handle) (size : Nat)
    (words : List Word) (found : Allocator.words? allocator handle size = some words) :
    words.length = size := by
  cases allocator with
  | arena allocator => exact allocator.arena.length_of_words? handle size words found
  | system allocator =>
    obtain ⟨block, _, inside⟩ := Option.bind_eq_some_iff.mp found
    split at inside
    · next enough =>
      cases inside
      exact length_readRange block 0 size (by omega)
    · cases inside

/-- Words can be overwritten exactly where as many can be read. -/
theorem isSome_store? (allocator : BuiltAllocator) (handle : Handle) (size : Nat)
    (patch : Patch) : (Allocator.store? allocator handle size patch).isSome =
      (Allocator.words? allocator handle size).isSome := by
  cases allocator with
  | arena allocator =>
    show (((allocator.arena.store? handle size patch).map _).map arena).isSome = _
    rw [Option.isSome_map, Option.isSome_map, Arena.store?_isSome]
    exact (allocator.arena.words?_isSome handle size).symm
  | system allocator =>
    show ((allocator.store? handle size patch).map system).isSome =
      (allocator.words? handle size).isSome
    rw [Option.isSome_map, SystemAllocator.store?, SystemAllocator.words?]
    cases allocator.blockOf? handle with
    | none => rfl
    | some block =>
      by_cases inside : size ≤ block.size
      · simp [inside]
      · simp [inside]

end BuiltAllocator

namespace Session

/-! ### Courses -/

/-- The transcripts and sessions that calls lead to, each call with memory of its own, with the
largest number of chunks that an arena had when a call was made. -/
inductive Course : Nat → Transcript → Session → Prop
  | start : Course 0 [] .empty
  | call (chunks : Nat) (transcript : Transcript) (session : Session) (memory : Memory)
    (call : Call) (course : Course chunks transcript session) :
    Course (max chunks session.mostChunks)
      (⟨call, (session.perform memory call).2.1⟩ :: transcript) (session.perform memory call).1

/-- A run is a course in which every call finds the same memory. -/
theorem course_of_run {memory : Memory} {chunks : Nat} {transcript : Transcript}
    {session : Session} (run : Run memory chunks transcript session) :
    Course chunks transcript session := by
  induction run with
  | start => exact .start
  | call chunks transcript session call run inductionHypothesis =>
    exact inductionHypothesis.call _ _ _ memory call

/-- The allocator has the blocks on loan that the replies under its key tell. -/
def LendsAsTold (life : Life) (allocator : BuiltAllocator) : Prop :=
  allocator.Lends life.loans

theorem kept_lendsAsTold (memory : Memory) : Kept memory LendsAsTold where
  lends life _ related := ⟨life.loans, related⟩
  founded _ lends := lends
  answered life allocator request reply next events lends named answer := by
    obtain ⟨other, after, more, same, _, lendsAfter⟩ :=
      BuiltAllocator.leaves_answer lends named memory request
    rw [answer] at same
    cases same
    rw [LendsAsTold, Life.loans_answered]
    exact lendsAfter

theorem isolated_of_course (chunks : Nat) (transcript : Transcript) (session : Session)
    (course : Course chunks transcript session) (few : chunks ≤ 2 ^ 32) :
    Isolated LendsAsTold transcript session := by
  induction course with
  | start => exact Isolated.empty _
  | call chunks transcript session memory call course inductionHypothesis =>
    obtain ⟨fewBefore, fewThen⟩ := Nat.max_le.mp few
    exact (inductionHypothesis fewBefore).performed (kept_lendsAsTold memory)
      (session.named_of_mostChunks_le fewThen) call

/-! ### No call panics -/

/-- As long as no arena has more than 2^32 chunks when a call is made, no call answers that it
panicked or that an earlier one did, the session is not spoiled, and there is no message of a
fault. The table has no more values than entries, and no allocator counts beyond what was reserved
for it; words are copied as many as were asked for, to or from as many as there are. -/
theorem calls_never_panic (chunks : Nat) (transcript : Transcript) (session : Session)
    (course : Course chunks transcript session) (few : chunks ≤ 2 ^ 32) :
    (∀ exchange ∈ transcript,
      exchange.reply.status ≠ .panicked ∧ exchange.reply.status ≠ .internalError) ∧
    session.spoiled = false ∧ session.lastFault = "" ∧
    session.table.live ≤ session.table.entries.size ∧ session.table.entries.size ≤ 2 ^ 32 ∧
    ∀ key allocator, session.table.get? key = some allocator →
      (∃ life, transcript.life? key = some life ∧ allocator.Within life.loans) ∧
      ∀ handle size,
        (∀ words, Allocator.words? allocator handle size = some words → words.length = size) ∧
        ∀ patch, (Allocator.store? allocator handle size patch).isSome =
          (Allocator.words? allocator handle size).isSome := by
  have isolated := isolated_of_course chunks transcript session course few
  refine ⟨fun exchange member => not_or.mp (isolated.served exchange member), isolated.intact,
    isolated.unfaulted, isolated.sound.live_le, isolated.sound.named,
    fun key allocator found => ⟨?_, fun handle size =>
      ⟨allocator.length_of_words? handle size, allocator.isSome_store? handle size⟩⟩⟩
  obtain ⟨life, lives, lends⟩ := (found ▸ isolated.follows key).exists_life
  exact ⟨life, lives, BuiltAllocator.Lends.within lends⟩

/-- Words are written to a block of another allocator, a reservation is denied, a block is released
twice, and a key is used after it was given up. -/
theorem hostile_course_never_panics :
    ∃ (chunks : Nat) (transcript : Transcript) (session : Session),
      Course chunks transcript session ∧ chunks ≤ 2 ^ 32 ∧
      transcript.map (·.reply.status) =
        [.invalidHandle, .ok, .doubleFree, .ok, .outOfMemory, .foreignBlock, .ok, .ok, .ok] ∧
      session.lastFault = "" := by
  have opened : Course 0 [] Session.empty := .start
  have arena := opened.call _ _ _ .addressable (.createArena 8 .given)
  have system := arena.call _ _ _ .addressable (.createSystem .given)
  have lent := system.call _ _ _ .addressable (.onAllocator 0 (.allocate 3 .given))
  have foreign := lent.call _ _ _ .addressable
    (.onAllocator 0x100000000 (.write ⟨0, 0⟩ (some fun _ => 7) 3))
  have denied := foreign.call _ _ _ .exhausted (.onAllocator 0x100000000 (.allocate 3 .given))
  have returned := denied.call _ _ _ .addressable (.onAllocator 0 (.deallocate ⟨0, 0⟩ 3))
  have again := returned.call _ _ _ .addressable (.onAllocator 0 (.deallocate ⟨0, 0⟩ 3))
  have ended := again.call _ _ _ .addressable (.destroy 0)
  have late := ended.call _ _ _ .addressable (.onAllocator 0 (.liveCount .given))
  exact ⟨_, _, _, late, by decide, by decide,
    (calls_never_panic _ _ _ late (by decide)).2.2.1⟩

end Session

end Allotment
