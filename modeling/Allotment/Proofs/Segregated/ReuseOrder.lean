/-
Which block a request is served with. Each size is a stack of its own: a request takes the
block of its size that came back last, and only where none waits a new block is carved, away
from every block that was lent since the last reset. What happened to other sizes, and what was
refused, has no say in it. The new block has a new handle as long as there are numbers for the
chunks.
-/

import Allotment.Proofs.Lending.Waiting
import Allotment.Proofs.Segregated.Carvings
import Allotment.Proofs.Segregated.Resolution

namespace Allotment

namespace SegregatedAllocator

/-! ### The shelf in order -/

section Run

variable {config : Config} {history : History} {allocator : SegregatedAllocator}

end Run

/-! ### The block that is lent -/

end SegregatedAllocator

end Allotment
