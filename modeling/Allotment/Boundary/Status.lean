/-
The statuses that calls across the boundary answer with, and the number of each.
-/

import Allotment.Outcome.Refusal

namespace Allotment

/-- How a call across the boundary ended. -/
inductive Status where
  | ok
  | invalidHandle
  | invalidArgument
  | zeroSize
  | oversize
  | outOfMemory
  | capacityExceeded
  | staleBlock
  | foreignBlock
  | sizeMismatch
  | doubleFree
  | configError
  | liveAllocations
  | unsupported
  | internalError
  | panicked
deriving DecidableEq

namespace Status

/-- The number of a status: zero for success, and negative otherwise. -/
def code : Status → Int
  | ok => 0
  | invalidHandle => -1
  | invalidArgument => -2
  | zeroSize => -3
  | oversize => -4
  | outOfMemory => -5
  | capacityExceeded => -6
  | staleBlock => -7
  | foreignBlock => -8
  | sizeMismatch => -9
  | doubleFree => -10
  | configError => -11
  | liveAllocations => -12
  | unsupported => -13
  | internalError => -20
  | panicked => -128

/-- The status of a refusal. -/
def ofRefusal : Refusal → Status
  | .zeroSize => zeroSize
  | .oversize .. => oversize
  | .outOfMemory .. => outOfMemory
  | .capacityExceeded .. => capacityExceeded
  | .staleHandle .. => staleBlock
  | .foreignHandle .. => foreignBlock
  | .sizeMismatch .. => sizeMismatch
  | .doubleFree .. => doubleFree
  | .invalidConfig .. => configError
  | .itemTooSmall .. => configError
  | .liveAllocations .. => liveAllocations

/-- The status of an answer that may be a refusal. -/
def ofAnswer {α : Type} : Except Refusal α → Status
  | .ok _ => ok
  | .error cause => ofRefusal cause

end Status

end Allotment
