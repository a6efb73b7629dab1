/-
The list of released blocks and the record of loans as plain lists of blocks. Taking a
block out for reuse erases it from the list. Where no handle occurs twice, recording
a loan adds its block, and striking a handle out erases the block under it.
-/

import Allotment.Backend.FreeBlocks
import Allotment.Backend.LoanBook
import Allotment.Proofs.Block.Sharing

namespace Allotment

/-! ### Released blocks -/

/-- A block that is taken out was there, and it is the one that is erased. -/
theorem FreeBlocks.take?_eq_some (size : Nat) (free left : FreeBlocks) (handle : Handle)
    (taken : take? size free = some (handle, left)) :
    ⟨handle, size⟩ ∈ free ∧ left = List.erase free ⟨handle, size⟩ := by
  induction free generalizing left with
  | nil => cases taken
  | cons block rest inductionHypothesis =>
    by_cases same : block.size = size
    · subst same
      rw [take?, if_pos rfl] at taken
      cases taken
      exact ⟨List.mem_cons_self, (List.erase_cons_head _ _).symm⟩
    · rw [take?, if_neg same, Option.map_eq_some_iff] at taken
      obtain ⟨⟨inner, remaining⟩, deeper, equal⟩ := taken
      cases equal
      obtain ⟨member, rfl⟩ := inductionHypothesis remaining deeper
      have different : block ≠ ⟨handle, size⟩ := fun equal => same (by rw [equal])
      refine ⟨List.mem_cons_of_mem _ member, ?_⟩
      rw [List.erase_cons_tail (by simpa using different)]

/-- Where no block of a size can be taken, none waits. -/
theorem FreeBlocks.not_mem_of_take?_eq_none (size : Nat) (free : FreeBlocks)
    (absent : take? size free = none) (handle : Handle) : ⟨handle, size⟩ ∉ free := by
  intro member
  have inside := (mem_ofSize free handle size).mpr member
  rw [(take?_eq_none_iff size free).mp absent] at inside
  cases inside

/-! ### Recorded loans -/

namespace LoanBook

theorem mem_erase_iff {book : LoanBook} {handle : Handle} {block : Block} :
    block ∈ book.erase handle ↔ block ∈ book ∧ block.handle ≠ handle := by
  rw [erase, List.mem_filter, decide_eq_true_iff]

/-- A handle that is found on loan is the handle of a recorded block. -/
theorem mem_of_size? (book : LoanBook) (handle : Handle) (size : Nat)
    (found : book.size? handle = some size) : ⟨handle, size⟩ ∈ book := by
  obtain ⟨block, hit, rfl⟩ := Option.map_eq_some_iff.mp found
  have names := List.find?_some hit
  have same : block.handle = handle := of_decide_eq_true names
  subst same
  exact List.mem_of_find?_eq_some hit

/-- The handle of a recorded block is found on loan. -/
theorem exists_size?_of_mem (book : LoanBook) (block : Block) (member : block ∈ book) :
    ∃ size, book.size? block.handle = some size := by
  have present : (book.find? (·.handle = block.handle)).isSome :=
    List.find?_isSome.mpr ⟨block, member, decide_eq_true rfl⟩
  obtain ⟨found, hit⟩ := Option.isSome_iff_exists.mp present
  exact ⟨found.size, by rw [size?, hit, Option.map_some]⟩

/-- Where no handle occurs twice, the handle of a recorded block is found at its size. -/
theorem size?_of_mem (book : LoanBook) (distinct : (book.map (·.handle)).Nodup) (block : Block)
    (member : block ∈ book) : book.size? block.handle = some block.size := by
  obtain ⟨size, found⟩ := book.exists_size?_of_mem block member
  have same := Block.eq_of_handle_eq distinct (book.mem_of_size? _ size found) member rfl
  rw [found, ← same]

/-- Where no handle occurs twice, the order of the loans does not matter. -/
theorem size?_perm (first second : LoanBook) (same : first.Perm second)
    (distinct : (first.map (·.handle)).Nodup) (handle : Handle) :
    first.size? handle = second.size? handle := by
  have distinctSecond := (same.map (·.handle)).nodup_iff.mp distinct
  refine Option.ext fun size => ⟨fun found => ?_, fun found => ?_⟩
  · exact size?_of_mem second distinctSecond ⟨handle, size⟩
      (same.mem_iff.mp (mem_of_size? first handle size found))
  · exact size?_of_mem first distinct ⟨handle, size⟩
      (same.mem_iff.mpr (mem_of_size? second handle size found))

/-- A loan of a handle that is not on loan is added. -/
theorem record_eq_cons (book : LoanBook) (block : Block)
    (unused : ∀ other ∈ book, other.handle ≠ block.handle) :
    book.record block = block :: book := by
  refine congrArg (block :: ·) (List.filter_eq_self.mpr fun other member => ?_)
  exact decide_eq_true (unused other member)

/-- Striking a handle out erases the block under it. -/
theorem erase_eq_erase (book : LoanBook) (distinct : (book.map (·.handle)).Nodup)
    (block : Block) (member : block ∈ book) :
    book.erase block.handle = List.erase book block := by
  rw [(List.Nodup.of_map _ distinct).erase_eq_filter]
  refine List.filter_congr fun other otherMember => ?_
  have known : other.handle = block.handle ↔ other = block :=
    ⟨Block.eq_of_handle_eq distinct otherMember member, fun equal => by rw [equal]⟩
  by_cases same : other = block
  · rw [decide_eq_false (not_not_intro (known.mpr same)), bne_eq_false_iff_eq.mpr same]
  · rw [decide_eq_true (mt known.mp same), bne_iff_ne.mpr same]

end LoanBook

end Allotment
