/-
What a reset leaves behind. After any run, an allocator that is reset cannot be told from
one that was just created with its configuration, however it is used from then on: every
answer, every refusal, all contents and figures and every fault are the same, if the
epochs of handles are counted from the reset on. The same is true of an item pool.

So no released block, no loan, no counter and no link survives a reset, for each of them
would show in some later answer.
-/

import Allotment.Proofs.Pool.Epochs
import Allotment.Proofs.Segregated.Epochs

namespace Allotment

section Reset

variable {α : Type} [ItemLayout α]

/-- After any run, operations on an allocator that was reset come to what they come to on a new
allocator of its configuration, with the handles moved back by the epoch after the reset and the
outcome moved forth by it. A second reset changes the epoch and nothing else. A checked reset does
the same if nothing is on loan, and otherwise is refused and changes nothing. An item pool that was
reset is as new as the allocator. -/
theorem reset_starts_anew (config : Config)
    (Permits : History → SegregatedAllocator.Command → Prop) (history : History)
    (allocator : SegregatedAllocator)
    (run : SegregatedAllocator.Run config Permits history allocator)
    (itemConfig : ItemConfig) (pool : ItemPool α) (machine : ItemMachine α)
    (itemRun : ItemPool.Run itemConfig pool machine) :
    (∃ cleared events new, allocator.reset = .done () cleared events ∧
      SegregatedAllocator.create config = .ok new ∧
      (∀ operations : List SegregatedAllocator.Operation,
        runAll SegregatedAllocator.operate cleared operations =
          (runAll SegregatedAllocator.operate new
            (operations.map (·.mapHandle (Handle.earlier cleared.arena.epoch)))).rename
              (SegregatedAllocator.later cleared.arena.epoch)
              (SegregatedAllocator.Answer.later cleared.arena.epoch)
              (Fault.later cleared.arena.epoch)) ∧
      (∃ logged, cleared.reset = .done () (cleared.later 1) logged) ∧
      allocator.tryReset =
        if allocator.live = 0 then .done (.ok ()) cleared events
        else .refused (.liveAllocations allocator.live) allocator) ∧
    (∃ cleared events new, pool.reset = .done () cleared events ∧
      ItemPool.create α itemConfig = .ok new ∧
      (∀ operations : List (ItemPool.Operation α),
        runAll ItemPool.operate cleared operations =
          (runAll ItemPool.operate new
            (operations.map (·.mapHandle (ItemHandle.earlier cleared.epoch)))).rename
              (ItemPool.later cleared.epoch) (ItemPool.Answer.later cleared.epoch) id) ∧
      ∃ logged, cleared.reset = .done () (cleared.later 1) logged) := by
  constructor
  · refine ⟨_, _, SegregatedAllocator.fresh config, rfl, ?_, fun operations => ?_,
      ⟨_, congrArg (Step.done () · _) allocator.cleared_cleared⟩, allocator.tryReset_eq⟩
    · rw [SegregatedAllocator.create, (SegregatedAllocator.configured_of_run run).valid]
      rfl
    · have epoch : allocator.cleared.arena.epoch = allocator.arena.epoch + 1 := rfl
      rw [epoch, SegregatedAllocator.cleared_eq_later run]
      exact SegregatedAllocator.runAll_later _ _ operations
  · refine ⟨_, _, _, ItemPool.reset_eq_later itemRun, ItemPool.create_of_run itemRun,
      fun operations => ?_, _, rfl⟩
    have epoch : ((ItemPool.empty itemConfig.itemsPerPool : ItemPool α).later
        (pool.epoch + 1)).epoch = pool.epoch + 1 := UInt32.zero_add _
    rw [epoch]
    exact ItemPool.runAll_later _ _ operations

end Reset

/-- An allocator with one block on loan and one released, and a pool with two items, are reset. A
handle from before is refused, and the first block and the first item are where the first ones of
all were, one epoch later. -/
theorem new_start_after_use :
    ∃ (history : History) (allocator : SegregatedAllocator) (pool : ItemPool UInt64)
      (machine : ItemMachine UInt64),
      SegregatedAllocator.Run (.recording 8) (fun _ _ => True) history allocator ∧
      ItemPool.Run { itemsPerPool := 2 } pool machine ∧
      allocator.live = 1 ∧ allocator.free = [⟨⟨0, 0, 0⟩, 3⟩] ∧ pool.live = 2 ∧
      (∃ cleared events, allocator.reset = .done () cleared events ∧
        (runAll SegregatedAllocator.operate cleared
          [.call (.allocate .addressable 3), .call (.tryDeallocate ⟨0, 0, 0⟩ 3),
            .words ⟨0, 0, 1⟩ 3]).answers =
          [.lent (.ok ⟨0, 0, 1⟩), .settled (.error (.staleHandle 0 1)),
            .contents (some [0, 0, 0])]) ∧
      ∃ cleared events, pool.reset = .done () cleared events ∧
        (runAll ItemPool.operate cleared
          [.call (.get ⟨0, 0⟩), .call (.allocate .addressable 12)]).answers =
          [.answered (.found none), .answered (.stored (.ok ⟨0, 1⟩))] := by
  have created : SegregatedAllocator.Run (.recording 8) (fun _ _ => True) [] _ := .start _ rfl
  have lent := created.step _ _ _ _ (.allocate .addressable 3) _ trivial rfl
  have lentAgain := lent.step _ _ _ _ (.allocate .addressable 2) _ trivial rfl
  have released := lentAgain.step _ _ _ _ (.tryDeallocate ⟨0, 0, 0⟩ 3) _ trivial rfl
  have empty : ItemPool.Run { itemsPerPool := 2 } (.empty 2 : ItemPool UInt64) _ := .start _ rfl
  have stored := empty.step _ _ _ (.allocate .addressable 10) _ _ rfl
  have full := stored.step _ _ _ (.allocate .addressable 11) _ _ rfl
  obtain ⟨⟨cleared, events, new, reset, made, same, _⟩, itemCleared, itemEvents, newPool,
    itemReset, poolMade, poolSame, _⟩ :=
    reset_starts_anew _ _ _ _ released _ _ _ full
  cases reset
  cases made
  cases itemReset
  cases poolMade
  refine ⟨_, _, _, _, released, full, rfl, rfl, rfl, ⟨_, _, rfl, ?_⟩, _, _, rfl, ?_⟩
  · rw [same]
    rfl
  · rw [poolSame]
    rfl

end Allotment
