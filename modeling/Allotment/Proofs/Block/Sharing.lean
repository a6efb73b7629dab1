/-
When two blocks share a word: they lie in one chunk of one epoch, and some position
is in both ranges. Blocks that share none are apart. Of a list of blocks that are
apart and not empty no two have the same handle.
-/

import Allotment.Block.Handle
import Mathlib.Data.List.Nodup

namespace Allotment

namespace Block

/-- The position is one of the block's words. -/
def Covers (block : Block) (position : Nat) : Prop :=
  block.handle.offset.toNat ≤ position ∧ position < block.handle.offset.toNat + block.size

/-- Some word belongs to both blocks. -/
def SharesWord (first second : Block) : Prop :=
  first.handle.chunk = second.handle.chunk ∧ first.handle.epoch = second.handle.epoch ∧
    ∃ position, first.Covers position ∧ second.Covers position

/-- No word belongs to both blocks. -/
def Apart (first second : Block) : Prop :=
  ¬ first.SharesWord second

theorem SharesWord.symm {first second : Block} (shared : first.SharesWord second) :
    second.SharesWord first := by
  obtain ⟨chunk, epoch, position, inFirst, inSecond⟩ := shared
  exact ⟨chunk.symm, epoch.symm, position, inSecond, inFirst⟩

theorem Apart.symm {first second : Block} (apart : first.Apart second) : second.Apart first :=
  fun shared => apart shared.symm

theorem apart_of_chunk_ne {first second : Block}
    (different : first.handle.chunk ≠ second.handle.chunk) : first.Apart second :=
  fun shared => different shared.1

/-- A block that starts where another one ends, or later, is apart from it. -/
theorem apart_of_end_le {first second : Block}
    (behind : second.handle.offset.toNat + second.size ≤ first.handle.offset.toNat) :
    first.Apart second := by
  rintro ⟨_, _, position, inFirst, inSecond⟩
  have reached := inFirst.1
  have left := inSecond.2
  omega

/-- Apart blocks of one chunk and one epoch lie one behind the other, unless one is empty. -/
theorem Apart.end_le {first second : Block} (apart : first.Apart second)
    (chunk : first.handle.chunk = second.handle.chunk)
    (epoch : first.handle.epoch = second.handle.epoch)
    (firstWords : 0 < first.size) (secondWords : 0 < second.size) :
    first.handle.offset.toNat + first.size ≤ second.handle.offset.toNat ∨
      second.handle.offset.toNat + second.size ≤ first.handle.offset.toNat := by
  by_contra overlap
  rw [not_or] at overlap
  refine apart ⟨chunk, epoch, max first.handle.offset.toNat second.handle.offset.toNat, ?_, ?_⟩
  · exact ⟨by omega, by omega⟩
  · exact ⟨by omega, by omega⟩

/-- The first words of a block are apart from what the block is apart from. -/
theorem Apart.of_le {handle : Handle} {size count : Nat} {other : Block}
    (apart : Block.Apart ⟨handle, size⟩ other) (less : count ≤ size) :
    Block.Apart ⟨handle, count⟩ other := by
  rintro ⟨chunk, epoch, position, inside, inOther⟩
  exact apart ⟨chunk, epoch, position,
    ⟨inside.1, Nat.lt_of_lt_of_le inside.2 (Nat.add_le_add_left less _)⟩, inOther⟩

/-- Blocks that are apart and not empty have different handles. -/
theorem Apart.handle_ne {first second : Block} (apart : first.Apart second)
    (firstWords : 0 < first.size) (secondWords : 0 < second.size) :
    first.handle ≠ second.handle := by
  intro same
  refine apart ⟨by rw [same], by rw [same], first.handle.offset.toNat, ?_, ?_⟩
  · exact ⟨Nat.le_refl _, by omega⟩
  · rw [same]
    exact ⟨Nat.le_refl _, by omega⟩

/-- No handle occurs twice among blocks that are apart and not empty. -/
theorem nodup_handles {blocks : List Block} (apart : blocks.Pairwise Apart)
    (words : ∀ block ∈ blocks, 0 < block.size) : (blocks.map (·.handle)).Nodup := by
  rw [List.Nodup, List.pairwise_map]
  exact apart.imp_of_mem fun firstMember secondMember separate =>
    separate.handle_ne (words _ firstMember) (words _ secondMember)

/-- Where no handle occurs twice, a block is known by its handle. -/
theorem eq_of_handle_eq {blocks : List Block} (distinct : (blocks.map (·.handle)).Nodup)
    {first second : Block} (firstMember : first ∈ blocks) (secondMember : second ∈ blocks)
    (same : first.handle = second.handle) : first = second :=
  List.inj_on_of_nodup_map distinct firstMember secondMember same

/-- Where no handle occurs twice, the blocks that are left have other handles than the one that
is gone. -/
theorem handle_ne_of_mem_erase {blocks : List Block} (distinct : (blocks.map (·.handle)).Nodup)
    {gone left : Block} (member : gone ∈ blocks) (remaining : left ∈ blocks.erase gone) :
    left.handle ≠ gone.handle := by
  intro same
  obtain ⟨different, present⟩ := (List.Nodup.of_map _ distinct).mem_erase_iff.mp remaining
  exact different (eq_of_handle_eq distinct present member same)

end Block

end Allotment
