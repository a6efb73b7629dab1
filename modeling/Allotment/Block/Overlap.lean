/-
When two blocks share a word, decided from their handles and sizes. The offsets
and sizes are the caller's, so the ends of the two ranges are computed with
checked sums, and the second end only if the first comparison holds.
-/

import Allotment.Outcome.Checked

namespace Allotment

/-- Whether two blocks share a word: they lie in one chunk of one epoch, and each starts
before the other ends. -/
def Block.overlaps (first second : Block) : Except Fault Bool :=
  if first.handle.chunk = second.handle.chunk ∧ first.handle.epoch = second.handle.epoch then
    match addSizes second.handle.offset.toNat second.size with
    | .error fault => .error fault
    | .ok secondEnd =>
      if first.handle.offset.toNat < secondEnd then
        (addSizes first.handle.offset.toNat first.size).map
          fun firstEnd => decide (second.handle.offset.toNat < firstEnd)
      else .ok false
  else .ok false

end Allotment
