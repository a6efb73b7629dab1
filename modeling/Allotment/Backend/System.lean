/-
The system allocator: every block is a reservation of its own, and a slot holds it.
A slot that lost its block is used again under the next generation, so the handle
of the old block names nothing any more; a slot whose generations ran out is left
alone for ever.
-/

import Allotment.Backend.Allocator

namespace Allotment

/-- A place for one block. The generation counts the blocks it held before. -/
structure Slot where
  generation : UInt32
  block : Option (Array Word)
deriving DecidableEq

/-- Slots, the numbers of those ready for use, and the totals over the blocks on loan. -/
structure SystemAllocator where
  slots : Array Slot
  freeSlots : List UInt32
  live : Nat
  liveWords : Nat
deriving DecidableEq

namespace SystemAllocator

/-- An allocator without slots. -/
def empty : SystemAllocator := ⟨#[], [], 0, 0⟩

/-- The allocator with the given block in a slot. -/
def fill (allocator : SystemAllocator) (index : Nat) (slot : Slot) : SystemAllocator :=
  { allocator with slots := allocator.slots.setIfInBounds index slot }

/-- The allocator after one more block of the given size went on loan. -/
def counted (allocator : SystemAllocator) (size : Nat) : SystemAllocator :=
  { allocator with live := allocator.live + 1, liveWords := allocator.liveWords + size }

/-- Lends a block of zero words: in the slot that was freed last, or else in a new one. -/
def allocate (memory : Memory) (allocator : SystemAllocator) (size : Nat) :
    Step SystemAllocator (Except Refusal Handle) :=
  if size = 0 then .refused .zeroSize allocator
  else if memory.grantsWords size = false then .refused (.outOfMemory size) allocator
  else
    let block := some (Array.replicate size (0 : Word))
    match allocator.freeSlots with
    | index :: rest =>
      match allocator.slots[index.toNat]? with
      | none => .fault (.indexPastEnd index.toNat allocator.slots.size) []
      | some slot =>
        .granted ⟨index, 0, slot.generation⟩
          (({ allocator with freeSlots := rest }.fill index.toNat
            { slot with block := block }).counted size)
    | [] =>
      if fieldLimit < allocator.slots.size then
        .refused (.capacityExceeded (allocator.slots.size + 1) fieldLimit) allocator
      else
        .granted ⟨allocator.slots.size.toUInt32, 0, 0⟩
          ({ allocator with slots := allocator.slots.push ⟨0, block⟩ }.counted size)

/-- The slot of a handle, if the handle is of the slot's current generation. -/
def slotOf? (allocator : SystemAllocator) (handle : Handle) : Option Slot :=
  if handle.offset ≠ 0 then none
  else
    (allocator.slots[handle.chunk.toNat]?).filter fun slot => slot.generation = handle.epoch

/-- The block of a handle. -/
def blockOf? (allocator : SystemAllocator) (handle : Handle) : Option (Array Word) :=
  (allocator.slotOf? handle).bind (·.block)

/-- The slot numbers ready for use after a slot of this generation lost its block. -/
def recycled (allocator : SystemAllocator) (handle : Handle) : List UInt32 :=
  if handle.epoch + 1 = 0 then allocator.freeSlots else handle.chunk :: allocator.freeSlots

/-- Takes the block of a handle out of its slot and answers its size; nothing happens if the
handle has no block. -/
def release (allocator : SystemAllocator) (handle : Handle) : Step SystemAllocator (Option Nat) :=
  match allocator.blockOf? handle with
  | none => .done none allocator []
  | some block =>
    if allocator.live = 0 ∨ allocator.liveWords < block.size then
      .fault .differenceUnderflow []
    else
      .done (some block.size)
        { slots := allocator.slots.setIfInBounds handle.chunk.toNat ⟨handle.epoch + 1, none⟩
          freeSlots := allocator.recycled handle
          live := allocator.live - 1
          liveWords := allocator.liveWords - block.size } []

/-- Takes a block back. It must be on loan, at this size. -/
def deallocate (allocator : SystemAllocator) (handle : Handle) (size : Nat) :
    Step SystemAllocator Unit :=
  (allocator.release handle).andThen fun released next =>
    match released with
    | none => .fault (.notLiveSystemBlock handle) []
    | some actual =>
      if actual = size then .done () next [] else .fault (.wrongSystemSize handle size) []

/-- What a checked release is refused for. A generation that the slot has not reached was
never issued; an earlier one was released. -/
def checkRelease (allocator : SystemAllocator) (handle : Handle) (size : Nat) :
    Except Refusal Unit :=
  if size = 0 then .error .zeroSize
  else
    match allocator.slots[handle.chunk.toNat]? with
    | none => .error (.foreignHandle handle)
    | some slot =>
      if handle.offset ≠ 0 ∨ slot.generation < handle.epoch then .error (.foreignHandle handle)
      else
        match allocator.blockOf? handle with
        | none => .error (.doubleFree handle)
        | some block =>
          if block.size = size then .ok () else .error (.sizeMismatch handle block.size size)

/-- Takes a block back if the release passes the check. -/
def tryDeallocate (allocator : SystemAllocator) (handle : Handle) (size : Nat) :
    Step SystemAllocator (Except Refusal Unit) :=
  match allocator.checkRelease handle size with
  | .error cause => .refused cause allocator
  | .ok () => (allocator.release handle).mapAnswer fun _ => .ok ()

/-- The first words of the block of a handle. -/
def words? (allocator : SystemAllocator) (handle : Handle) (size : Nat) : Option (List Word) :=
  (allocator.blockOf? handle).bind fun block =>
    if size ≤ block.size then some (readRange block 0 size) else none

/-- Overwrites first words of the block of a handle. -/
def store? (allocator : SystemAllocator) (handle : Handle) (size : Nat) (patch : Patch) :
    Option SystemAllocator :=
  (allocator.blockOf? handle).bind fun block =>
    if size ≤ block.size then
      some (allocator.fill handle.chunk.toNat
        ⟨handle.epoch, some (patchRange block 0 size patch)⟩)
    else none

/-- The totals of the allocator as a record. -/
def recordText (allocator : SystemAllocator) : String :=
  Text.record "SystemWordAllocator" [("slots", toString allocator.slots.size),
    ("live", toString allocator.live), ("live_words", toString allocator.liveWords)]

instance : Allocator SystemAllocator where
  allocate memory allocator size := allocator.allocate memory size
  deallocate := deallocate
  tryDeallocate := tryDeallocate
  words? := words?
  store? := store?

end SystemAllocator

end Allotment
