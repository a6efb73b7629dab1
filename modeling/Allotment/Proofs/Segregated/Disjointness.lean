/-
Blocks of the segregated allocator never overlap. With recorded loans this holds
whatever handles and sizes a client releases; without a record it holds for clients
that only return what is on loan to them.
-/

import Allotment.Proofs.Segregated.Soundness

namespace Allotment

namespace SegregatedAllocator

/-- In every state of a run the blocks on loan and the released blocks share no word and no
handle, each is a non-empty range in the used part of a chunk, under the current epoch, and the
counter is the number of blocks on loan. -/
theorem blocks_never_overlap (config : Config) (history : History)
    (allocator : SegregatedAllocator) (run : Run config (Proper config) history allocator)
    (named : config.maxChunks = none → allocator.arena.ChunksNamed) :
    (history.loans ++ allocator.free).Pairwise Block.Apart ∧
      ((history.loans ++ allocator.free).map (·.handle)).Nodup ∧
      (∀ block ∈ history.loans ++ allocator.free,
        0 < block.size ∧ block.handle.epoch = allocator.arena.epoch ∧
          ∃ chunk, allocator.arena.chunks[block.handle.chunk.toNat]? = some chunk ∧
            block.handle.offset.toNat + block.size ≤ chunk.used) ∧
      allocator.live = history.loans.length := by
  have sound := sound_of_run run ((configured_of_run run).chunksNamed named)
  rw [free_eq_shelf run]
  refine ⟨sound.apart, sound.nodup_handles, fun block member => ?_, sound.live⟩
  obtain ⟨epoch, positive, carved⟩ :=
    (Arena.contains_iff _ _ _).mp (sound.carved block member)
  exact ⟨positive, epoch, carved⟩

/-- Two blocks in two chunks, of which the first one came back after releases of it at a wrong
size and under a wrong epoch. -/
theorem blocks_apart_after_wrong_releases :
    ∃ (config : Config) (history : History) (allocator : SegregatedAllocator),
      Run config (Proper config) history allocator ∧
        history.loans = [⟨⟨1, 0, 0⟩, 2⟩] ∧ allocator.free = [⟨⟨0, 0, 0⟩, 3⟩] ∧
          (history.loans ++ allocator.free).Pairwise Block.Apart := by
  have created : Run (.recording 4) (Proper (.recording 4)) [] (fresh (.recording 4)) :=
    .start _ rfl
  have first := created.step _ _ _ _ (.allocate .addressable 3) _ trivial rfl
  have second := first.step _ _ _ _ (.tryAllocate .addressable 2) _ trivial rfl
  have mismatched := second.step _ _ _ _ (.tryDeallocate ⟨0, 0, 0⟩ 2) _ (Or.inl rfl) rfl
  have stale := mismatched.step _ _ _ _ (.tryDeallocate ⟨0, 0, 1⟩ 3) _ (Or.inl rfl) rfl
  have returned := stale.step _ _ _ _ (.tryDeallocate ⟨0, 0, 0⟩ 3) _ (Or.inl rfl) rfl
  exact ⟨_, _, _, returned, rfl, rfl, (blocks_never_overlap _ _ _ returned fun _ => by decide).1⟩

end SegregatedAllocator

end Allotment
