/-
No word of a segregated allocator is lost or counted twice. The words that the arena counts as
carved are those of the blocks on loan and of the released blocks, and the figures that are
shown to a client say the same: the census of the released blocks adds up to what is missing
from the loans, class by class and in all.
-/

import Allotment.Proofs.Segregated.Carvings
import Allotment.Proofs.Segregated.Census

namespace Allotment

namespace SegregatedAllocator

section Run

variable {config : Config} {history : History} {allocator : SegregatedAllocator}

/-- The chunks of an allocator are all of one size. -/
theorem Configured.capacityWords (configured : Configured config allocator) :
    allocator.arena.capacityWords = allocator.arena.chunks.size * allocator.arena.chunkWords := by
  have equal : allocator.arena.chunks.toList.map (·.capacity) =
      List.replicate allocator.arena.chunks.size allocator.arena.chunkWords := by
    refine List.eq_replicate_iff.mpr ⟨by rw [List.length_map, Array.length_toList], ?_⟩
    intro capacity member
    obtain ⟨chunk, inside, rfl⟩ := List.mem_map.mp member
    rw [configured.chunkWords]
    exact configured.capacity chunk (Array.mem_toList_iff.mp inside)
  calc
    allocator.arena.capacityWords =
        (List.replicate allocator.arena.chunks.size allocator.arena.chunkWords).sum :=
      congrArg List.sum equal
    _ = _ := List.sum_replicate_nat

/-- Under a chunk budget the carved words are counted in 64 bits. -/
theorem carvedWords_lt (configured : Configured config allocator) (counted : Counted allocator)
    (addressable : config.maxChunks = none → allocator.arena.carvedWords < sizeLimit) :
    allocator.arena.carvedWords < sizeLimit := by
  cases limited : config.maxChunks with
  | none => exact addressable limited
  | some limit =>
    have chunks : allocator.arena.chunks.size ≤ fieldLimit :=
      Nat.le_trans (configured.budget limit limited)
        (maxChunks_le config configured.valid limit limited)
    have words : allocator.arena.chunkWords ≤ fieldLimit := by
      rw [configured.chunkWords]
      exact chunkWords_le config configured.valid
    calc
      allocator.arena.carvedWords ≤ allocator.arena.usedWords := counted.arena.carved
      _ ≤ allocator.arena.capacityWords := counted.arena.usedWords_le
      _ = allocator.arena.chunks.size * allocator.arena.chunkWords := configured.capacityWords
      _ ≤ fieldLimit * fieldLimit := Nat.mul_le_mul chunks words
      _ < sizeLimit := by decide

/-- The carved words are those of the blocks on loan and of the released ones. -/
theorem carvedWords_eq (run : Run config (Proper config) history allocator) :
    allocator.arena.carvedWords =
      (history.loans.map (·.size)).sum + (allocator.free.map (·.size)).sum := by
  obtain ⟨sizes, carving⟩ := run.exists_carvings
  have balanced := balanced_of_run carving
  rw [balanced.words, List.Perm.sum_nat balanced.all, List.map_append, List.sum_append_nat,
    free_eq_shelf run]

end Run

/-! ### The figures -/

section Figures

variable (allocator : SegregatedAllocator)

theorem freeWords_usage (fits : (allocator.free.map (·.size)).sum < sizeLimit) :
    allocator.usage.freeWords = .ok (allocator.free.map (·.size)).sum := by
  rw [← FreeClass.sum_words_census] at fits ⊢
  exact allocator.usage.freeWords_eq_ok fits

theorem freeBlocks_usage (fits : allocator.free.length < sizeLimit) :
    allocator.usage.freeBlocks = .ok allocator.free.length := by
  rw [← FreeClass.sum_blocks_census] at fits ⊢
  exact allocator.usage.freeBlocks_eq_ok fits

end Figures

/-- In every state of a run the carved words are those of the blocks on loan and of the released
ones, and as long as they can be counted in 64 bits, the figures say how many released blocks
there are and how many words they have. The figures list each size of which a block waits, in
ascending order, with the number of its blocks. The capacity is that of whole chunks, and it
holds the words in use, which hold the carved words. Where loans are recorded, the record is of
the blocks on loan. -/
theorem no_word_lost (config : Config) (history : History) (allocator : SegregatedAllocator)
    (run : Run config (Proper config) history allocator) :
    allocator.usage.carvedWords =
      (history.loans.map (·.size)).sum + (allocator.free.map (·.size)).sum ∧
    ((config.maxChunks = none → allocator.usage.carvedWords < sizeLimit) →
      allocator.usage.freeWords = .ok (allocator.free.map (·.size)).sum ∧
      allocator.usage.freeBlocks = .ok allocator.free.length) ∧
    (allocator.usage.freeClasses.Pairwise fun first second => first.size < second.size) ∧
    (∀ size blocks, ⟨size, blocks⟩ ∈ allocator.usage.freeClasses ↔
      0 < blocks ∧ allocator.freeCount size = blocks) ∧
    allocator.usage.capacityWords = allocator.usage.chunkCount * allocator.usage.chunkWords ∧
    allocator.usage.carvedWords ≤ allocator.arena.usedWords ∧
    allocator.arena.usedWords ≤ allocator.usage.capacityWords ∧
    ((config.maxChunks = none → allocator.arena.ChunksNamed) →
      ∀ book ∈ allocator.loans, book = history.loans) := by
  have configured := configured_of_run run
  have counted := counted_of_run run
  have carved := carvedWords_eq run
  refine ⟨carved, fun addressable => ?_, FreeClass.ascending_census allocator.free,
    FreeClass.mem_census_iff allocator.free, configured.capacityWords, counted.arena.carved,
    counted.arena.usedWords_le,
    fun named => (sound_of_run run (configured.chunksNamed named)).book⟩
  have below := carvedWords_lt configured counted addressable
  have blocks := counted.blocks
  exact ⟨allocator.freeWords_usage (by omega), allocator.freeBlocks_usage (by omega)⟩

/-- Two blocks with padding between them came back, the first one after a release at a wrong size,
and the next block was too large for the rest of the chunk. -/
theorem no_word_lost_over_chunks :
    ∃ (config : Config) (history : History) (allocator : SegregatedAllocator),
      Run config (Proper config) history allocator ∧
        history.loans = [⟨⟨1, 0, 0⟩, 5⟩] ∧
        allocator.usage.freeClasses = [⟨1, 1⟩, ⟨3, 1⟩] ∧
        allocator.usage.freeWords = .ok 4 ∧ allocator.usage.carvedWords = 5 + 4 ∧
        allocator.arena.usedWords = 10 ∧ allocator.usage.capacityWords = 2 * 8 := by
  have created : Run { Config.recording 8 with alignment := .doubleWord }
    (Proper { Config.recording 8 with alignment := .doubleWord }) [] (fresh _) := .start _ rfl
  have first := created.step _ _ _ _ (.allocate .addressable 3) _ trivial rfl
  have second := first.step _ _ _ _ (.tryAllocate .addressable 1) _ trivial rfl
  have mismatched := second.step _ _ _ _ (.tryDeallocate ⟨0, 0, 0⟩ 2) _ (Or.inl rfl) rfl
  have returned := mismatched.step _ _ _ _ (.tryDeallocate ⟨0, 0, 0⟩ 3) _ (Or.inl rfl) rfl
  have both := returned.step _ _ _ _ (.deallocate ⟨0, 4, 0⟩ 1) _ (Or.inl rfl) rfl
  have refused := both.step _ _ _ _ (.tryAllocate .addressable 9) _ trivial rfl
  have third := refused.step _ _ _ _ (.allocate .addressable 5) _ trivial rfl
  obtain ⟨carved, figures, _, _, capacity, _⟩ := no_word_lost _ _ _ third
  exact ⟨_, _, _, third, rfl, rfl, (figures fun _ => by decide).1, carved, by decide +kernel,
    capacity⟩

end SegregatedAllocator

end Allotment
