/-
Faults: the ways in which a caller breaks an operation's preconditions. A fault
ends the run; there is no state to go on with. Each constructor is one broken
precondition, and `message` words it.
-/

import Allotment.Outcome.Refusal

namespace Allotment

/-- A broken precondition. -/
inductive Fault where
  /-- A sum of sizes leaves the 64 bits sizes are counted in. -/
  | sumOverflow
  /-- A difference of sizes falls below zero. -/
  | differenceUnderflow
  /-- A product of sizes leaves the 64 bits sizes are counted in. -/
  | productOverflow
  /-- An item was to be taken from a place past the end of a bag. -/
  | takePastEnd (index length : Nat)
  /-- A place past the end of a table was read. -/
  | indexPastEnd (index length : Nat)
  /-- Room was asked for that no memory can give in one piece. -/
  | capacityOverflow
  /-- A number was to be drawn from an empty range. -/
  | emptyRange
  /-- A chance outside zero to one. -/
  | invalidProbability
  /-- An unchecked allocation of no words. -/
  | zeroWordAllocation
  /-- An unchecked allocation larger than a chunk. -/
  | oversizeAllocation (size limit : Nat)
  /-- No words were to be carved. -/
  | zeroWordCarve
  /-- More words were to be carved than the newest chunk has left. -/
  | carveWithoutRoom (size left : Nat)
  /-- An unchecked release of no words. -/
  | zeroWordDeallocation
  /-- An unchecked release of words that were never carved. -/
  | notCarved (handle : Handle) (size : Nat) (epoch : UInt32)
  /-- An unchecked release with nothing on loan. -/
  | noOutstandingLoans (handle : Handle)
  /-- An unchecked release at another size than the recorded one. -/
  | notLoan (handle : Handle) (size : Nat) (recorded : Option Nat)
  /-- An unchecked release of a system block that is not live. -/
  | notLiveSystemBlock (handle : Handle)
  /-- An unchecked release of a system block at another size. -/
  | wrongSystemSize (handle : Handle) (size : Nat)
  /-- An unchecked release that the leak checker refuses. -/
  | rejectedDeallocation (cause : Refusal)
  /-- The head of an item pool's free list holds an item. -/
  | freeCellOccupied (cell : Nat)
  /-- The head of a key table's free list is not vacant. -/
  | freeEntryNotVacant (index : Nat)
deriving DecidableEq

/-- The text of a size that may be absent. -/
def sizeText : Option Nat → String
  | none => "None"
  | some size => s!"Some({size})"

namespace Fault

/-- The message of a fault. -/
def message : Fault → String
  | sumOverflow => "attempt to add with overflow"
  | differenceUnderflow => "attempt to subtract with overflow"
  | productOverflow => "attempt to multiply with overflow"
  | takePastEnd index length =>
    s!"swap_remove index (is {index}) should be < len (is {length})"
  | indexPastEnd index length =>
    s!"index out of bounds: the len is {length} but the index is {index}"
  | capacityOverflow => "capacity overflow"
  | emptyRange => "cannot sample empty range"
  | invalidProbability =>
    "called `Result::unwrap()` on an `Err` value: InvalidProbability"
  | zeroWordAllocation => "zero-word allocation"
  | oversizeAllocation size limit => s!"allocation of {size} words exceeds chunk size {limit}"
  | zeroWordCarve => "zero-word carve"
  | carveWithoutRoom size left => s!"carve({size}) without ensure_capacity: {left} words left"
  | zeroWordDeallocation => "zero-word deallocation"
  | notCarved handle size epoch =>
    s!"{handle.text} ({size} words) is not carved memory of epoch {epoch}"
  | noOutstandingLoans handle => s!"{handle.text} released with no outstanding loans"
  | notLoan handle size recorded =>
    s!"assertion `left == right` failed: {handle.text} is not a {size}-word loan\n" ++
      s!"  left: {sizeText recorded}\n right: {sizeText (some size)}"
  | notLiveSystemBlock handle => s!"{handle.text} is not a live system block"
  | wrongSystemSize handle size => s!"{handle.text} released with {size} words"
  | rejectedDeallocation cause => s!"rejected deallocation: Err({cause.recordText})"
  | freeCellOccupied cell =>
    s!"internal error: entered unreachable code: free list head {cell} is occupied"
  | freeEntryNotVacant index =>
    s!"internal error: entered unreachable code: free entry {index} is not vacant"

end Fault

end Allotment
