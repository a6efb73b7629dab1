/-
The same handles some epochs later. Handles, and all that speaks of them, are moved by a
number of epochs; epochs are counted in 32 bits and wrap around, so every move can be
undone. Lists of blocks are searched for equal handles and counted by size only, and both
are the same for the moved blocks.
-/

import Allotment.Backend.Usage
import Allotment.Backend.LoanBook
import Allotment.Outcome.Fault
import Mathlib.Data.List.Basic

namespace Allotment

/-- The next epoch is as much later as the epoch is. -/
theorem next_epoch_later (epoch epochs : UInt32) : epoch + epochs + 1 = epoch + 1 + epochs := by
  rw [UInt32.add_assoc, UInt32.add_comm epochs, UInt32.add_assoc]

/-! ### Handles and what is said about them -/

/-- The handle of the same place some epochs later. -/
def Handle.later (epochs : UInt32) (handle : Handle) : Handle :=
  { handle with epoch := handle.epoch + epochs }

/-- The handle of the same place some epochs earlier. -/
def Handle.earlier (epochs : UInt32) (handle : Handle) : Handle :=
  { handle with epoch := handle.epoch - epochs }

/-- The block some epochs later. -/
def Block.later (epochs : UInt32) (block : Block) : Block :=
  ⟨block.handle.later epochs, block.size⟩

/-- The refusal of the same request some epochs later. -/
def Refusal.later (epochs : UInt32) : Refusal → Refusal
  | .staleHandle handleEpoch currentEpoch =>
    .staleHandle (handleEpoch + epochs) (currentEpoch + epochs)
  | .foreignHandle handle => .foreignHandle (handle.later epochs)
  | .sizeMismatch handle expected actual => .sizeMismatch (handle.later epochs) expected actual
  | .doubleFree handle => .doubleFree (handle.later epochs)
  | cause => cause

/-- The fault of the same call some epochs later. -/
def Fault.later (epochs : UInt32) : Fault → Fault
  | .notCarved handle size epoch => .notCarved (handle.later epochs) size (epoch + epochs)
  | .noOutstandingLoans handle => .noOutstandingLoans (handle.later epochs)
  | .notLoan handle size recorded => .notLoan (handle.later epochs) size recorded
  | .notLiveSystemBlock handle => .notLiveSystemBlock (handle.later epochs)
  | .wrongSystemSize handle size => .wrongSystemSize (handle.later epochs) size
  | .rejectedDeallocation cause => .rejectedDeallocation (cause.later epochs)
  | reason => reason

variable (epochs : UInt32)

@[simp] theorem Handle.later_earlier (handle : Handle) :
    (handle.earlier epochs).later epochs = handle := by
  rw [later, earlier, UInt32.sub_add_cancel]

@[simp] theorem Handle.earlier_later (handle : Handle) :
    (handle.later epochs).earlier epochs = handle := by
  rw [later, earlier, UInt32.add_sub_cancel]

theorem Handle.later_injective : Function.Injective (later epochs) :=
  Function.LeftInverse.injective (earlier_later epochs)

@[simp] theorem Handle.later_inj (first second : Handle) :
    first.later epochs = second.later epochs ↔ first = second :=
  (later_injective epochs).eq_iff

theorem Block.later_injective : Function.Injective (later epochs) := by
  intro first second same
  have handles := Handle.later_injective epochs (congrArg Block.handle same)
  have sizes := congrArg Block.size same
  exact congrArg₂ Block.mk handles sizes

/-! ### Lists of blocks -/

variable (blocks : List Block) (handle : Handle) (size : Nat)

theorem mem_map_later :
    ⟨handle.later epochs, size⟩ ∈ blocks.map (Block.later epochs) ↔ ⟨handle, size⟩ ∈ blocks :=
  List.mem_map_of_injective (Block.later_injective epochs) (a := ⟨handle, size⟩)

namespace FreeBlocks

theorem take?_later :
    take? size (blocks.map (Block.later epochs)) =
      (take? size blocks).map fun (handle, left) =>
        (handle.later epochs, left.map (Block.later epochs)) := by
  induction blocks with
  | nil => rfl
  | cons block rest inductionHypothesis =>
    rw [List.map_cons, take?, take?, Block.later]
    by_cases same : block.size = size
    · rw [if_pos same, if_pos same]
      rfl
    · rw [if_neg same, if_neg same, inductionHypothesis, Option.map_map, Option.map_map]
      rfl

theorem holds_later :
    holds (blocks.map (Block.later epochs)) (handle.later epochs) = holds blocks handle := by
  unfold holds
  rw [List.any_map]
  refine congrArg _ (funext fun block => ?_)
  exact decide_eq_decide.mpr (Handle.later_inj epochs block.handle handle)

theorem census_later :
    FreeClass.census (blocks.map (Block.later epochs)) = FreeClass.census blocks := by
  unfold FreeClass.census
  rw [List.foldr_map]
  rfl

end FreeBlocks

namespace LoanBook

theorem size?_later :
    size? (blocks.map (Block.later epochs)) (handle.later epochs) = size? blocks handle := by
  unfold size?
  rw [List.find?_map, Option.map_map]
  refine congrArg₂ _ rfl (congrArg₂ _ (funext fun block => ?_) rfl)
  exact decide_eq_decide.mpr (Handle.later_inj epochs block.handle handle)

theorem erase_later :
    erase (blocks.map (Block.later epochs)) (handle.later epochs) =
      (erase blocks handle).map (Block.later epochs) := by
  unfold erase
  rw [List.filter_map]
  refine congrArg _ (congrArg₂ _ (funext fun block => ?_) rfl)
  exact decide_eq_decide.mpr (not_congr (Handle.later_inj epochs block.handle handle))

theorem record_later (block : Block) :
    record (blocks.map (Block.later epochs)) (block.later epochs) =
      (record blocks block).map (Block.later epochs) :=
  congrArg (block.later epochs :: ·) (erase_later epochs blocks block.handle)

end LoanBook

end Allotment
