/-
The system allocator as a lender. Every block has a slot of its own, so what happens to
one block cannot show in another, and every block that is lent is a new one of zeros.
-/

import Allotment.Proofs.Lending.Custody
import Allotment.Proofs.System.Soundness

namespace Allotment

namespace SystemAllocator

/-! ### Words -/

section Words

variable {before after : SystemAllocator}

/-- A handle whose block is the same reads the same. -/
theorem words?_congr (handle : Handle) (size : Nat)
    (same : ∀ words, after.blockOf? handle = some words ↔ before.blockOf? handle = some words) :
    after.words? handle size = before.words? handle size := by
  rw [words?, words?, Option.ext same]

/-- A block reads as the words of its slot. -/
theorem words?_of_block (allocator : SystemAllocator) (handle : Handle) (size : Nat)
    (words : Array Word) (found : allocator.blockOf? handle = some words)
    (inside : size ≤ words.size) :
    allocator.words? handle size = some (readRange words 0 size) := by
  rw [words?, found, Option.bind_some, if_pos inside]

/-- A block that was handed out reads as zeros. -/
theorem HandsOut.words? {size : Nat} {handle : Handle}
    (handed : before.HandsOut size handle after) :
    after.words? handle size = some (List.replicate size 0) := by
  have found : after.blockOf? handle = some (#[] ++ Array.replicate size 0) := by
    rw [handed.blocks, if_pos rfl, Array.empty_append]
  rw [words?_of_block after handle size _ found (by simp)]
  exact congrArg some (readRange_append_replicate #[] 0 size 0 size (Nat.le_refl _) (by simp))

end Words

/-! ### The laws -/

instance : Recycler SystemAllocator where
  recycles _ _ := false

section Operations

variable {before after : SystemAllocator} {loans : List Block}

theorem Sound.lent (sound : Sound before loans) (memory : Memory) (size : Nat) (handle : Handle)
    (events : List Event)
    (granted : before.allocate memory size = .done (.ok handle) after events) :
    Sound after (⟨handle, size⟩ :: loans) ∧ Undisturbed before after loans ∧
      ∃ words, after.words? handle size = some words ∧ words.length = size ∧
        (Recycler.recycles before size = false → words = List.replicate size 0) := by
  rcases sound.allocate memory size with ⟨cause, refused⟩ | ⟨other, next, equal, handed, lends⟩
  · rw [refused] at granted
    cases granted
  · rw [equal] at granted
    cases granted
    refine ⟨lends, fun block member => ?_, _, handed.words?, List.length_replicate, fun _ => rfl⟩
    refine words?_congr _ _ fun words => ?_
    rw [handed.blocks, if_neg (handed.not_mem sound block member)]

theorem Sound.returned (sound : Sound before loans) (handle : Handle) (size : Nat)
    (events : List Event)
    (granted : before.tryDeallocate handle size = .done (.ok ()) after events) :
    ⟨handle, size⟩ ∈ loans ∧ Sound after (loans.erase ⟨handle, size⟩) ∧
      Undisturbed before after (loans.erase ⟨handle, size⟩) := by
  rcases sound.tryDeallocate handle size with ⟨cause, equal⟩ | ⟨words, found, sized, equal⟩
  · rw [equal] at granted
    cases granted
  · rw [equal] at granted
    cases granted
    have member : ⟨handle, size⟩ ∈ loans := (sound.held _).mpr ⟨words, found, sized⟩
    refine ⟨member, sound.without handle size words found sized, fun block remaining => ?_⟩
    have different := Block.handle_ne_of_mem_erase sound.distinct member remaining
    refine words?_congr _ _ fun others => ?_
    rw [blockOf?_without handle size words found]
    exact ⟨fun parts => parts.2, fun held => ⟨different, held⟩⟩

theorem Sound.written (sound : Sound before loans) (block : Block) (size : Nat) (patch : Patch)
    (member : block ∈ loans) (inside : size ≤ block.size) :
    Sound (Allocator.store before block.handle size patch) loans ∧
      Undisturbed before (Allocator.store before block.handle size patch) (loans.erase block) ∧
      (Allocator.store before block.handle size patch).words? block.handle block.size =
        (before.words? block.handle block.size).map fun words => overlay words size patch := by
  obtain ⟨words, found, sized⟩ := (sound.held block).mp member
  obtain ⟨stored, overwrites⟩ : ∃ stored, before.store? block.handle size patch = some stored :=
    ⟨_, store?_eq_some_iff.mpr ⟨words, found, sized ▸ inside, rfl⟩⟩
  have next : Allocator.store before block.handle size patch = stored := by
    show (before.store? block.handle size patch).getD before = stored
    rw [overwrites, Option.getD_some]
  have blocks := blockOf?_store overwrites
  rw [next]
  refine ⟨sound.store overwrites, fun other remaining => ?_, ?_⟩
  · have different := Block.handle_ne_of_mem_erase sound.distinct member remaining
    refine words?_congr _ _ fun others => ?_
    rw [blocks, if_neg different]
  · have patched : stored.blockOf? block.handle = some (patchRange words 0 size patch) := by
      rw [blocks, if_pos rfl]
      exact ⟨words, found, rfl⟩
    have whole : block.size ≤ (patchRange words 0 size patch).size :=
      Nat.le_of_eq ((size_patchRange _ _ _ _).trans sized).symm
    rw [words?_of_block before _ _ words found (Nat.le_of_eq sized.symm),
      words?_of_block stored _ _ _ patched whole, Option.map_some, readRange_patchRange_self]

end Operations

instance : Lender SystemAllocator where
  Lends := Sound
  Named _ := True
  named_of_allocate _ _ _ _ _ _ _ _ := trivial
  named_of_tryDeallocate _ _ _ _ _ _ _ _ := trivial
  named_of_store _ _ _ _ _ := trivial
  distinct _ _ sound _ := sound.distinct
  lent memory _ _ size handle events _ sound _ granted :=
    Sound.lent sound memory size handle events granted
  declined memory before after size cause events _ _ refused :=
    (before.allocate_refused after size cause events memory refused).1
  returned _ _ handle size events _ sound _ granted :=
    Sound.returned sound handle size events granted
  rejected before after handle size cause events _ _ refused :=
    (before.tryDeallocate_refused after size cause events handle refused).1
  written _ _ block size patch sound _ member inside :=
    Sound.written sound block size patch member inside

end SystemAllocator

end Allotment
