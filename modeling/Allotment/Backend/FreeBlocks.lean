/-
Released blocks waiting for reuse. They are kept in one list, newest first; the
blocks of one size form a stack inside it, and a block is reused for its own size
only.
-/

import Allotment.Block.Handle

namespace Allotment

/-- Released blocks, newest first. -/
abbrev FreeBlocks := List Block

namespace FreeBlocks

/-- The released blocks of one size, newest first. -/
def ofSize (free : FreeBlocks) (size : Nat) : List Handle :=
  (free.filter (·.size = size)).map (·.handle)

/-- Takes out the newest block of a size. -/
def take? (size : Nat) : FreeBlocks → Option (Handle × FreeBlocks)
  | [] => none
  | block :: rest =>
    if block.size = size then some (block.handle, rest)
    else (take? size rest).map fun (handle, left) => (handle, block :: left)

/-- The handle waits for reuse, at whatever size. -/
def holds (free : FreeBlocks) (handle : Handle) : Bool :=
  free.any (·.handle = handle)

@[simp] theorem ofSize_nil (size : Nat) : ofSize [] size = [] :=
  rfl

theorem ofSize_cons_self (block : Block) (free : FreeBlocks) :
    ofSize (block :: free) block.size = block.handle :: ofSize free block.size := by
  simp [ofSize]

theorem ofSize_cons_other (block : Block) (free : FreeBlocks) (size : Nat)
    (other : block.size ≠ size) : ofSize (block :: free) size = ofSize free size := by
  simp [ofSize, other]

theorem mem_ofSize (free : FreeBlocks) (handle : Handle) (size : Nat) :
    handle ∈ ofSize free size ↔ ⟨handle, size⟩ ∈ free := by
  unfold ofSize
  rw [List.mem_map]
  constructor
  · rintro ⟨block, member, rfl⟩
    obtain ⟨inside, same⟩ := List.mem_filter.mp member
    have sized : block.size = size := of_decide_eq_true same
    subst sized
    exact inside
  · intro inside
    exact ⟨_, List.mem_filter.mpr ⟨inside, decide_eq_true rfl⟩, rfl⟩

/-- Nothing can be taken exactly when no block of the size waits. -/
theorem take?_eq_none_iff (size : Nat) (free : FreeBlocks) :
    take? size free = none ↔ ofSize free size = [] := by
  induction free with
  | nil => exact ⟨fun _ => rfl, fun _ => rfl⟩
  | cons block rest inductionHypothesis =>
    by_cases same : block.size = size
    · subst same
      rw [take?, if_pos rfl, ofSize_cons_self]
      exact ⟨nofun, nofun⟩
    · rw [take?, if_neg same, ofSize_cons_other block rest size same, Option.map_eq_none_iff]
      exact inductionHypothesis

end FreeBlocks

end Allotment
