/-
How much reserved memory can lie idle in the chunks of a segregated allocator. A chunk is left
for good as soon as a request does not fit behind its blocks, and the words behind them are
never used. Still the idle words stay below the carved ones, but for the newest chunk.

The argument is the one about next-fit packing. A chunk is left only for a block that it has no
room for, so its words in use and those of the next chunk are together more than a chunk has.
Added up over all neighbours this counts the words in use twice, except those of the newest
chunk, which are counted once; and that is the inequality that each new block keeps.
-/

import Allotment.Proofs.Segregated.Conservation

namespace Allotment

namespace Arena

/-! ### Neighbours fill more than a chunk -/

/-- All words in use were carved, and the chunks that were left are filled so well that every pair
of neighbours uses more words than a chunk has. -/
structure Packed (arena : Arena) : Prop where
  carved : arena.carvedWords = arena.usedWords
  filled : ∀ newest, arena.chunks.back? = some newest → 0 < newest.used ∧
    (arena.chunks.size - 1) * (arena.chunkWords + 1) + newest.used ≤ 2 * arena.usedWords

variable {arena : Arena}

theorem packed_of_no_chunks (none : arena.chunks = #[]) (nothing : arena.carvedWords = 0) :
    arena.Packed where
  carved := by rw [nothing, usedWords, none]; rfl
  filled newest found := by rw [none] at found; cases found

/-- Without padding, carving uses the words of the block only. -/
theorem usedWords_carved_word (byWord : arena.alignment = .word) (newest : Chunk) (size : Nat)
    (found : arena.chunks.back? = some newest) :
    (arena.carved newest size).usedWords = arena.usedWords + size := by
  have used := arena.usedWords_carved newest size found
  rw [byWord, Alignment.roundUp_word] at used
  omega

section Carve

variable {newest : Chunk} {size : Nat}

/-- A block behind the others in the newest chunk keeps the chunks packed. -/
theorem Packed.carve (packed : arena.Packed) (byWord : arena.alignment = .word)
    (found : arena.chunks.back? = some newest) : (arena.carved newest size).Packed where
  carved := by
    rw [usedWords_carved_word byWord newest size found, ← packed.carved]
    rfl
  filled later laterFound := by
    obtain ⟨some, pairs⟩ := packed.filled newest found
    rw [arena.back?_carved newest size found, Option.some_inj] at laterFound
    subst laterFound
    rw [Chunk.used_extend, byWord, Alignment.roundUp_word, size_chunks_carved,
      usedWords_carved_word byWord newest size found]
    refine ⟨Nat.add_pos_left some size, ?_⟩
    show (arena.chunks.size - 1) * (arena.chunkWords + 1) + (newest.used + size) ≤ _
    omega

/-- The first block of a new chunk keeps the chunks packed, because the chunk before had no room
for it. -/
theorem Packed.grow (packed : arena.Packed) (byWord : arena.alignment = .word)
    (whole : ∀ chunk ∈ arena.chunks, chunk.capacity = arena.chunkWords) (positive : 0 < size)
    (full : ¬ arena.HasRoom size) (found : (arena.grown size).chunks.back? = some newest) :
    ((arena.grown size).carved newest size).Packed := by
  have grownWord : (arena.grown size).alignment = .word := byWord
  have used : ((arena.grown size).carved newest size).usedWords = arena.usedWords + size := by
    rw [usedWords_carved_word grownWord newest size found, usedWords_grown]
  have empty : newest.used = 0 := by
    rw [back?_grown, Option.some_inj] at found
    rw [← found]
    rfl
  refine ⟨by rw [used, ← packed.carved]; rfl, fun later laterFound => ?_⟩
  rw [back?_carved _ newest size found, Option.some_inj] at laterFound
  subst laterFound
  rw [Chunk.used_extend, grownWord, Alignment.roundUp_word, empty, Nat.zero_add,
    size_chunks_carved, used]
  refine ⟨positive, ?_⟩
  show ((arena.chunks.push _).size - 1) * (arena.chunkWords + 1) + size ≤ _
  rw [Array.size_push, Nat.add_sub_cancel]
  cases older : arena.chunks.back? with
  | none =>
    have none : arena.chunks = #[] := Array.back?_eq_none_iff.mp older
    rw [none, Array.size_empty, Nat.zero_mul]
    omega
  | some last =>
    obtain ⟨_, pairs⟩ := packed.filled last older
    have inside := arena.size_chunks_pos last older
    have capacity := whole last (Array.mem_of_getElem? (arena.getElem?_newest last older))
    have neighbours : arena.chunkWords < last.used + size := by
      rw [← capacity, ← Alignment.roundUp_word last.used, ← byWord]
      exact Nat.lt_of_not_le fun fits => full ⟨last, older, fits⟩
    have one : arena.chunks.size = arena.chunks.size - 1 + 1 := by omega
    rw [one, Nat.succ_mul]
    omega

/-- A block that is obtained keeps the chunks packed. -/
theorem Packed.obtain {after : Arena} (packed : arena.Packed) (byWord : arena.alignment = .word)
    (whole : ∀ chunk ∈ arena.chunks, chunk.capacity = arena.chunkWords) (memory : Memory)
    (handle : Handle) (events : List Event) (positive : 0 < size)
    (obtained : arena.obtain memory size = .done (.ok handle) after events) : after.Packed := by
  obtain ⟨base, newest, origin, found, _, rfl, rfl⟩ :=
    obtain_granted memory arena size handle after events positive obtained
  rcases origin with rfl | ⟨full, _, rfl⟩
  · exact packed.carve byWord found
  · exact packed.grow byWord whole positive full found

end Carve

/-- Overwritten words are in use as before. -/
theorem Packed.store {stored : Arena} {handle : Handle} {size : Nat} {patch : Patch}
    (packed : arena.Packed) (written : arena.store? handle size patch = some stored) :
    stored.Packed := by
  have used := usedWords_store written
  have count := size_chunks_store written
  obtain ⟨chunkWords, _⟩ := settings_of_store written
  obtain ⟨_, _, _, _, _, carved⟩ := (store?_eq_some_iff _ _ _ _ _).mp written
  refine ⟨by rw [used, ← packed.carved, ← carved]; rfl, fun newest found => ?_⟩
  rw [Array.back?_eq_getElem?, count] at found
  obtain ⟨older, place, _, same⟩ := exists_chunk_of_store written _ newest found
  rw [used, count, chunkWords, same]
  refine packed.filled older ?_
  rw [Array.back?_eq_getElem?]
  exact place

end Arena

namespace SegregatedAllocator

section Run

variable {config : Config} {before after : SegregatedAllocator} {deeds : History}

theorem packed_of_change (configured : Configured config before)
    (byWord : config.alignment = .word) (packed : before.arena.Packed)
    (change : Change before deeds after) : after.arena.Packed := by
  cases change with
  | nothing => exact packed
  | written handle size patch stored overwrites => exact packed.store overwrites
  | reused handle size left positive small taken => exact packed
  | carved memory handle size grown events positive small absent obtained =>
    refine packed.obtain (configured.alignment.trans byWord) (fun chunk member => ?_) memory handle
      events positive obtained
    exact (configured.capacity chunk member).trans configured.chunkWords.symm
  | returned handle size positive carved lending recorded => exact packed
  | cleared => exact Arena.packed_of_no_chunks rfl rfl

theorem packed_of_run {Permits : History → Command → Prop} {history : History}
    (byWord : config.alignment = .word) (run : Run config Permits history after) :
    after.arena.Packed := by
  induction run with
  | start allocator created =>
    obtain ⟨_, rfl⟩ := configured_of_create config allocator created
    exact Arena.packed_of_no_chunks rfl rfl
  | step history deeds before after command events run permitted performed inductionHypothesis =>
    exact packed_of_change (configured_of_run run) byWord inductionHypothesis
      (before.change_of_perform command deeds after events performed)

end Run

/-! ### The bound -/

/-- Where blocks may start at any word, in every state of any run with a chunk at least: the chunks
except the newest, each counted with one word more than it has, make less than twice the carved
words. So the words reserved are less than twice the carved words and one chunk. -/
theorem reserved_below_twice_carved (config : Config) (Permits : History → Command → Prop)
    (history : History) (allocator : SegregatedAllocator)
    (run : Run config Permits history allocator) (byWord : config.alignment = .word)
    (reserved : 0 < allocator.arena.chunks.size) :
    (allocator.arena.chunks.size - 1) * (config.chunkWords + 1) <
        2 * allocator.arena.carvedWords ∧
      allocator.arena.capacityWords < 2 * allocator.arena.carvedWords + config.chunkWords := by
  have configured := configured_of_run run
  have packed := packed_of_run byWord run
  have last : allocator.arena.chunks.size - 1 < allocator.arena.chunks.size := by omega
  obtain ⟨some, pairs⟩ :=
    packed.filled _ (Array.back?_eq_getElem?.trans (Array.getElem?_eq_getElem last))
  rw [← packed.carved, configured.chunkWords] at pairs
  have bound : (allocator.arena.chunks.size - 1) * (config.chunkWords + 1) <
      2 * allocator.arena.carvedWords := by omega
  refine ⟨bound, ?_⟩
  have others : (allocator.arena.chunks.size - 1) * config.chunkWords ≤
      (allocator.arena.chunks.size - 1) * (config.chunkWords + 1) :=
    Nat.mul_le_mul_left _ (Nat.le_succ _)
  have one : allocator.arena.chunks.size = allocator.arena.chunks.size - 1 + 1 := by omega
  rw [configured.capacityWords, configured.chunkWords, one, Nat.succ_mul]
  omega

/-- A block of one word, then one that fills a chunk, then again one word, after a refusal and a
reuse: three chunks of four words for six carved words. -/
theorem reserved_below_twice_carved_over_chunks :
    ∃ (history : History) (allocator : SegregatedAllocator),
      Run { chunkWords := 4 } (fun _ _ => True) history allocator ∧
        history.loans = [⟨⟨2, 0, 0⟩, 1⟩, ⟨⟨0, 0, 0⟩, 1⟩, ⟨⟨1, 0, 0⟩, 4⟩] ∧
        allocator.arena.chunks.size = 3 ∧ allocator.arena.carvedWords = 6 ∧
        (3 - 1) * (4 + 1) < 2 * allocator.arena.carvedWords ∧
        allocator.arena.capacityWords < 2 * allocator.arena.carvedWords + 4 := by
  have created : Run { chunkWords := 4 } (fun _ _ => True) [] (fresh _) := .start _ rfl
  have first := created.step _ _ _ _ (.allocate .addressable 1) _ trivial rfl
  have refused := first.step _ _ _ _ (.tryAllocate .addressable 5) _ trivial rfl
  have whole := refused.step _ _ _ _ (.allocate .addressable 4) _ trivial rfl
  have returned := whole.step _ _ _ _ (.deallocate ⟨0, 0, 0⟩ 1) _ trivial rfl
  have reused := returned.step _ _ _ _ (.tryAllocate .addressable 1) _ trivial rfl
  have third := reused.step _ _ _ _ (.allocate .addressable 1) _ trivial rfl
  exact ⟨_, _, third, rfl, rfl, rfl,
    reserved_below_twice_carved _ _ _ _ third rfl (by decide +kernel)⟩

end SegregatedAllocator

end Allotment
