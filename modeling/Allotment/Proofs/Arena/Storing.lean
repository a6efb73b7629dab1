/-
What overwriting a range of an arena changes: the words of that range, and nothing
about which ranges were handed out. A range that shares no word with it reads as
before, and a longer range from the same handle shows the new words as an overlay.
-/

import Allotment.Proofs.Arena.Carving

namespace Allotment

namespace Arena

/-- The arena after a range of one of its chunks was overwritten. -/
def overwritten (arena : Arena) (handle : Handle) (chunk : Chunk) (size : Nat)
    (patch : Patch) : Arena :=
  { arena with
    chunks := arena.chunks.setIfInBounds handle.chunk.toNat
      { chunk with data := patchRange chunk.data handle.offset.toNat size patch } }

/-- A range is overwritten exactly when it was handed out. -/
theorem store?_eq_some_iff (arena : Arena) (handle : Handle) (size : Nat) (patch : Patch)
    (stored : Arena) :
    arena.store? handle size patch = some stored ↔
      handle.epoch = arena.epoch ∧ 0 < size ∧
        ∃ chunk, arena.chunks[handle.chunk.toNat]? = some chunk ∧
          handle.offset.toNat + size ≤ chunk.used ∧
          arena.overwritten handle chunk size patch = stored := by
  unfold store? chunkOf?
  by_cases epoch : handle.epoch = arena.epoch
  · rw [if_pos epoch]
    cases arena.chunks[handle.chunk.toNat]? with
    | none =>
      constructor
      · nofun
      · rintro ⟨_, _, _, absent, _⟩
        cases absent
    | some chunk =>
      simp only [Option.bind_some, Chunk.store?, epoch, true_and, Option.some.injEq,
        exists_eq_left']
      by_cases inside : chunk.Contains handle.offset.toNat size
      · rw [if_pos inside, Option.map_some, Option.some_inj]
        exact ⟨fun equal => ⟨inside.1, inside.2, equal⟩, fun parts => parts.2.2⟩
      · rw [if_neg inside]
        exact ⟨nofun, fun parts => absurd ⟨parts.1, parts.2.1⟩ inside⟩
  · rw [if_neg epoch]
    exact ⟨nofun, fun parts => absurd parts.1 epoch⟩

/-- A range can be overwritten exactly when it was handed out. -/
theorem store?_isSome (arena : Arena) (handle : Handle) (size : Nat) (patch : Patch) :
    (arena.store? handle size patch).isSome = arena.contains handle size := by
  rw [Bool.eq_iff_iff, Option.isSome_iff_exists, contains_iff]
  simp only [store?_eq_some_iff]
  constructor
  · rintro ⟨_, epoch, positive, chunk, found, inside, _⟩
    exact ⟨epoch, positive, chunk, found, inside⟩
  · rintro ⟨epoch, positive, chunk, found, inside⟩
    exact ⟨_, epoch, positive, chunk, found, inside, rfl⟩

theorem exists_store?_of_contains (arena : Arena) (handle : Handle) (size : Nat) (patch : Patch)
    (carved : arena.contains handle size = true) :
    ∃ stored, arena.store? handle size patch = some stored :=
  Option.isSome_iff_exists.mp ((arena.store?_isSome handle size patch).trans carved)

section Stored

variable {arena stored : Arena} {handle : Handle} {size : Nat} {patch : Patch}

theorem size_chunks_store (written : arena.store? handle size patch = some stored) :
    stored.chunks.size = arena.chunks.size := by
  obtain ⟨_, _, _, _, _, rfl⟩ := (store?_eq_some_iff _ _ _ _ _).mp written
  exact Array.size_setIfInBounds

/-- Every chunk keeps its capacity, its used part, and the words it has outside of the
overwritten range. -/
theorem getElem?_store (written : arena.store? handle size patch = some stored) (index : Nat)
    (chunk : Chunk) (found : arena.chunks[index]? = some chunk) :
    ∃ later, stored.chunks[index]? = some later ∧ later.capacity = chunk.capacity ∧
      later.used = chunk.used ∧
      later.data = if handle.chunk.toNat = index then
        patchRange chunk.data handle.offset.toNat size patch else chunk.data := by
  obtain ⟨_, _, holder, holderFound, _, rfl⟩ := (store?_eq_some_iff _ _ _ _ _).mp written
  by_cases same : handle.chunk.toNat = index
  · subst same
    rw [holderFound] at found
    cases found
    obtain ⟨inside, _⟩ := Array.getElem?_eq_some_iff.mp holderFound
    refine ⟨_, Array.getElem?_setIfInBounds_self_of_lt inside, rfl, ?_, (if_pos rfl).symm⟩
    exact size_patchRange _ _ _ _
  · exact ⟨chunk, (Array.getElem?_setIfInBounds_ne same).trans found, rfl, rfl,
      (if_neg same).symm⟩

/-- Every chunk there is afterwards was there before, with the same capacity and used part. -/
theorem exists_chunk_of_store (written : arena.store? handle size patch = some stored)
    (index : Nat) (later : Chunk) (found : stored.chunks[index]? = some later) :
    ∃ chunk, arena.chunks[index]? = some chunk ∧ later.capacity = chunk.capacity ∧
      later.used = chunk.used := by
  obtain ⟨inside, _⟩ := Array.getElem?_eq_some_iff.mp found
  rw [size_chunks_store written] at inside
  obtain ⟨same, sameFound, capacity, used, _⟩ :=
    getElem?_store written index _ (Array.getElem?_eq_getElem inside)
  cases sameFound.symm.trans found
  exact ⟨_, Array.getElem?_eq_getElem inside, capacity, used⟩

theorem epoch_store (written : arena.store? handle size patch = some stored) :
    stored.epoch = arena.epoch := by
  obtain ⟨_, _, _, _, _, rfl⟩ := (store?_eq_some_iff _ _ _ _ _).mp written
  rfl

/-- What an arena keeps besides its words. -/
theorem settings_of_store (written : arena.store? handle size patch = some stored) :
    stored.chunkWords = arena.chunkWords ∧ stored.maxChunks = arena.maxChunks ∧
      stored.alignment = arena.alignment ∧
      ∀ chunk ∈ stored.chunks, ∃ older ∈ arena.chunks, chunk.capacity = older.capacity := by
  obtain ⟨_, _, holder, found, _, rfl⟩ := (store?_eq_some_iff _ _ _ _ _).mp written
  refine ⟨rfl, rfl, rfl, fun chunk member => ?_⟩
  rcases Array.mem_or_eq_of_mem_setIfInBounds member with kept | rfl
  · exact ⟨chunk, kept, rfl⟩
  · exact ⟨holder, Array.mem_of_getElem? found, rfl⟩

theorem hasRoom_of_store (written : arena.store? handle size patch = some stored) (count : Nat)
    (room : stored.HasRoom count) : arena.HasRoom count := by
  obtain ⟨newest, found, fits⟩ := room
  obtain ⟨_, _, alignment, _⟩ := settings_of_store written
  rw [Array.back?_eq_getElem?, size_chunks_store written] at found
  obtain ⟨older, place, capacity, used⟩ := exists_chunk_of_store written _ newest found
  rw [Chunk.Fits, capacity, used, alignment] at fits
  exact ⟨older, Array.back?_eq_getElem?.trans place, fits⟩

/-- A range that was handed out stays handed out. -/
theorem contains_store (written : arena.store? handle size patch = some stored)
    (other : Handle) (count : Nat) (carved : arena.contains other count = true) :
    stored.contains other count = true := by
  obtain ⟨epoch, positive, chunk, found, inside⟩ := (contains_iff _ _ _).mp carved
  obtain ⟨later, laterFound, _, laterUsed, _⟩ := getElem?_store written _ chunk found
  exact (contains_iff _ _ _).mpr
    ⟨epoch.trans (epoch_store written).symm, positive, later, laterFound, by rwa [laterUsed]⟩

/-- The words of a range that was handed out, in terms of its chunk. -/
theorem words?_store (written : arena.store? handle size patch = some stored)
    (other : Handle) (count : Nat) (chunk : Chunk) (epoch : other.epoch = arena.epoch)
    (positive : 0 < count) (found : arena.chunks[other.chunk.toNat]? = some chunk)
    (inside : other.offset.toNat + count ≤ chunk.used) :
    stored.words? other count = some (readRange
      (if handle.chunk.toNat = other.chunk.toNat then
        patchRange chunk.data handle.offset.toNat size patch else chunk.data)
      other.offset.toNat count) := by
  obtain ⟨later, laterFound, _, laterUsed, laterData⟩ := getElem?_store written _ chunk found
  rw [words?_of_chunk stored other count later (epoch.trans (epoch_store written).symm) positive
    laterFound (by rwa [laterUsed]), laterData]

/-- A block that shares no word with the overwritten range reads as before. -/
theorem words?_store_other (written : arena.store? handle size patch = some stored)
    (other : Block) (carved : arena.contains other.handle other.size = true)
    (apart : Block.Apart ⟨handle, size⟩ other) :
    stored.words? other.handle other.size = arena.words? other.handle other.size := by
  obtain ⟨epoch, positive, chunk, found, inside⟩ := (contains_iff _ _ _).mp carved
  rw [words?_store written _ _ chunk epoch positive found inside,
    words?_of_chunk _ _ _ chunk epoch positive found inside]
  obtain ⟨handleEpoch, handlePositive, _⟩ := (store?_eq_some_iff _ _ _ _ _).mp written
  by_cases same : handle.chunk.toNat = other.handle.chunk.toNat
  · have outside := apart.end_le (UInt32.toNat_inj.mp same) (handleEpoch.trans epoch.symm)
      handlePositive positive
    rw [if_pos same]
    exact congrArg some (readRange_patchRange_other _ _ _ _ _ _ outside.symm)
  · rw [if_neg same]

/-- A range from the same handle shows the new words as an overlay. -/
theorem words?_store_self (written : arena.store? handle size patch = some stored)
    (count : Nat) (carved : arena.contains handle count = true) :
    stored.words? handle count =
      (arena.words? handle count).map fun contents => overlay contents size patch := by
  obtain ⟨epoch, positive, chunk, found, inside⟩ := (contains_iff _ _ _).mp carved
  rw [words?_store written _ _ chunk epoch positive found inside,
    words?_of_chunk _ _ _ chunk epoch positive found inside, if_pos rfl, Option.map_some]
  exact congrArg some (readRange_patchRange_self _ _ _ _ _)

end Stored

end Arena

end Allotment
