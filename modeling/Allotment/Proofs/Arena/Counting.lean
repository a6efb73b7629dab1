/-
What an arena counts. The words that were carved are never more than the words in use,
because only padding is in use without being carved, and no chunk is in use beyond its
capacity. So whatever is counted stays within the words that were reserved.
-/

import Allotment.Proofs.Arena.Storing
import Mathlib.Algebra.Order.BigOperators.Group.List
import Mathlib.Algebra.Order.Group.Nat

namespace Allotment

namespace Arena

/-- How many words of the chunks are in use, padding included. -/
def usedWords (arena : Arena) : Nat :=
  (arena.chunks.toList.map (·.used)).sum

/-- The arena counts no more words as carved than are in use, and no chunk is in use beyond its
capacity. -/
structure Counted (arena : Arena) : Prop where
  carved : arena.carvedWords ≤ arena.usedWords
  used : ∀ chunk ∈ arena.chunks, chunk.used ≤ chunk.capacity

/-- The words in use are words that were reserved. -/
theorem Counted.usedWords_le {arena : Arena} (counted : arena.Counted) :
    arena.usedWords ≤ arena.capacityWords :=
  List.sum_le_sum fun chunk member => counted.used chunk (Array.mem_toList_iff.mp member)

/-- An arena without chunks counts nothing. -/
theorem counted_of_no_chunks (arena : Arena) (none : arena.chunks = #[])
    (nothing : arena.carvedWords = 0) : arena.Counted where
  carved := by rw [nothing]; exact Nat.zero_le _
  used chunk member := by rw [none] at member; exact absurd member (Array.not_mem_empty chunk)

/-! ### Handing out a block -/

theorem usedWords_grown (arena : Arena) (size : Nat) :
    (arena.grown size).usedWords = arena.usedWords := by
  rw [usedWords, grown, Array.toList_push, List.map_append, List.sum_append_nat]
  rfl

theorem Counted.grown {arena : Arena} (counted : arena.Counted) (size : Nat) :
    (arena.grown size).Counted where
  carved := by
    rw [usedWords_grown]
    exact counted.carved
  used chunk member := by
    rcases Array.mem_push.mp member with older | rfl
    · exact counted.used chunk older
    · exact Nat.zero_le _

/-- Carving uses the words of the block and of the padding before it. -/
theorem usedWords_carved (arena : Arena) (newest : Chunk) (size : Nat)
    (found : arena.chunks.back? = some newest) :
    (arena.carved newest size).usedWords + newest.used =
      arena.usedWords + (arena.alignment.roundUp newest.used + size) := by
  rw [← Array.getLast?_toList] at found
  obtain ⟨older, split⟩ := List.getLast?_eq_some_iff.mp found
  have last : arena.chunks.size - 1 = older.length := by
    rw [← Array.length_toList, split, List.length_append]
    rfl
  rw [usedWords, usedWords, carved, Array.toList_setIfInBounds, split, last,
    List.set_append_right _ _ (Nat.le_refl _), Nat.sub_self, List.set_cons_zero,
    List.map_append, List.map_append, List.sum_append_nat, List.sum_append_nat, List.map_singleton,
    List.map_singleton, List.sum_cons, List.sum_cons, Chunk.used_extend]
  omega

theorem Counted.carve {arena : Arena} (counted : arena.Counted) (newest : Chunk) (size : Nat)
    (found : arena.chunks.back? = some newest) (fits : newest.Fits arena.alignment size) :
    (arena.carved newest size).Counted where
  carved := by
    have used := arena.usedWords_carved newest size found
    have padded := arena.alignment.le_roundUp newest.used
    have before := counted.carved
    show arena.carvedWords + size ≤ _
    omega
  used chunk member := by
    rcases Array.mem_or_eq_of_mem_setIfInBounds member with kept | rfl
    · exact counted.used chunk kept
    · rw [Chunk.used_extend, Chunk.capacity_extend]
      exact fits

/-- A block that is obtained is counted once. -/
theorem Counted.obtain {before after : Arena} (counted : before.Counted) (memory : Memory)
    (size : Nat) (handle : Handle) (events : List Event) (positive : 0 < size)
    (obtained : before.obtain memory size = .done (.ok handle) after events) :
    after.Counted ∧ after.carvedWords = before.carvedWords + size := by
  obtain ⟨base, newest, origin, found, fits, rfl, rfl⟩ :=
    obtain_granted memory before size handle after events positive obtained
  rcases origin with rfl | ⟨_, _, rfl⟩
  · exact ⟨counted.carve newest size found fits, rfl⟩
  · exact ⟨(counted.grown size).carve newest size found fits, rfl⟩

/-! ### Overwriting words -/

section Stored

variable {arena stored : Arena} {handle : Handle} {size : Nat} {patch : Patch}

theorem usedWords_store (written : arena.store? handle size patch = some stored) :
    stored.usedWords = arena.usedWords := by
  refine congrArg List.sum (List.ext_getElem? fun index => ?_)
  rw [List.getElem?_map, List.getElem?_map, Array.getElem?_toList, Array.getElem?_toList]
  cases found : arena.chunks[index]? with
  | none =>
    have outside := Array.getElem?_eq_none_iff.mp found
    rw [← size_chunks_store written] at outside
    rw [Array.getElem?_eq_none outside]
  | some chunk =>
    obtain ⟨later, laterFound, _, laterUsed, _⟩ := getElem?_store written index chunk found
    rw [laterFound, Option.map_some, Option.map_some, laterUsed]

theorem Counted.store (counted : arena.Counted)
    (written : arena.store? handle size patch = some stored) :
    stored.Counted ∧ stored.carvedWords = arena.carvedWords := by
  have used := usedWords_store written
  obtain ⟨_, _, holder, found, inside, rfl⟩ := (store?_eq_some_iff _ _ _ _ _).mp written
  refine ⟨⟨used ▸ counted.carved, fun chunk member => ?_⟩, rfl⟩
  rcases Array.mem_or_eq_of_mem_setIfInBounds member with kept | rfl
  · exact counted.used chunk kept
  · have within := counted.used holder (Array.mem_of_getElem? found)
    rw [Chunk.used, size_patchRange]
    exact within

end Stored

end Arena

end Allotment
