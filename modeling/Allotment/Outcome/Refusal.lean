/-
Refusals: the causes for which an allocator declines a request and says so. A
refused request changes nothing, and the caller may go on. What a caller must
never do at all ends in a `Fault` instead.
-/

import Allotment.Block.Handle

namespace Allotment

/-- Why a request was declined. Sizes are in words unless a name says bytes. -/
inductive Refusal where
  /-- No words were asked for, or released. -/
  | zeroSize
  /-- One block of the arena never exceeds a chunk. -/
  | oversize (requested limit : Nat)
  /-- The memory did not grant a reservation. -/
  | outOfMemory (size : Nat)
  /-- The chunk budget, or the number of slots, is used up. -/
  | capacityExceeded (requested capacity : Nat)
  /-- The handle is from another epoch. -/
  | staleHandle (handleEpoch currentEpoch : UInt32)
  /-- The handle was never issued here. -/
  | foreignHandle (handle : Handle)
  /-- The handle is on loan at another size. -/
  | sizeMismatch (handle : Handle) (expected actual : Nat)
  /-- The handle was released before. -/
  | doubleFree (handle : Handle)
  /-- The configuration breaks a rule. -/
  | invalidConfig (reason : String)
  /-- The item type cannot hold a free-list link. -/
  | itemTooSmall (itemBytes leastBytes : Nat)
  /-- A reset was asked for while blocks are on loan. -/
  | liveAllocations (count : Nat)
deriving DecidableEq

namespace Refusal

/-- The message of a refusal. -/
def message : Refusal → String
  | zeroSize => "zero-word allocation requested"
  | oversize requested limit =>
    s!"allocation of {requested} words exceeds chunk size of {limit} words"
  | outOfMemory size => s!"system allocator failed to supply {size} words"
  | capacityExceeded requested capacity =>
    s!"chunk budget exceeded: requested {requested} words, capacity {capacity} words"
  | staleHandle handleEpoch currentEpoch =>
    s!"stale handle: epoch {handleEpoch}, allocator epoch {currentEpoch}"
  | foreignHandle handle => s!"{handle.text} does not belong to this allocator"
  | sizeMismatch handle expected actual =>
    s!"{handle.text} was allocated with {expected} words but released with {actual}"
  | doubleFree handle => s!"{handle.text} released twice"
  | invalidConfig reason => s!"invalid configuration: {reason}"
  | itemTooSmall itemBytes leastBytes =>
    s!"item of {itemBytes} bytes is smaller than a free-list link ({leastBytes} bytes)"
  | liveAllocations count => s!"reset refused: {count} allocations still live"

/-- The name of the cause. -/
def name : Refusal → String
  | zeroSize => "ZeroSize"
  | oversize .. => "Oversize"
  | outOfMemory .. => "OutOfMemory"
  | capacityExceeded .. => "CapacityExceeded"
  | staleHandle .. => "StaleHandle"
  | foreignHandle .. => "ForeignHandle"
  | sizeMismatch .. => "SizeMismatch"
  | doubleFree .. => "DoubleFree"
  | invalidConfig .. => "InvalidConfig"
  | itemTooSmall .. => "ItemTooSmall"
  | liveAllocations .. => "LiveAllocations"

/-- The values that go with the cause, by name. The reason of an invalid configuration is set
between quotation marks as it stands, since no rule's wording holds one. -/
def fields : Refusal → List (String × String)
  | zeroSize => []
  | oversize requested limit => [("requested", toString requested), ("max", toString limit)]
  | outOfMemory size => [("words", toString size)]
  | capacityExceeded requested capacity =>
    [("requested", toString requested), ("capacity", toString capacity)]
  | staleHandle handleEpoch currentEpoch =>
    [("handle_epoch", toString handleEpoch), ("current_epoch", toString currentEpoch)]
  | foreignHandle handle => [("handle", handle.recordText)]
  | sizeMismatch handle expected actual =>
    [("handle", handle.recordText), ("expected", toString expected),
      ("actual", toString actual)]
  | doubleFree handle => [("handle", handle.recordText)]
  | invalidConfig reason => [("reason", "\"" ++ reason ++ "\"")]
  | itemTooSmall itemBytes leastBytes =>
    [("item_bytes", toString itemBytes), ("min_bytes", toString leastBytes)]
  | liveAllocations count => [("count", toString count)]

/-- The text of a refusal as a record. -/
def recordText (cause : Refusal) : String :=
  Text.record cause.name cause.fields

end Refusal

end Allotment
