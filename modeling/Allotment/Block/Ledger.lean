/-
A ledger of blocks on loan that refuses to record two blocks sharing a word. It is
the witness that allocators are checked against, and it trusts nothing but the
overlap test.
-/

import Allotment.Block.Bag
import Allotment.Block.Overlap

namespace Allotment

/-- The recorded blocks, in the ledger's own order. -/
structure Ledger where
  blocks : List Block
deriving DecidableEq

namespace Ledger

/-- The ledger of no blocks. -/
def empty : Ledger := ⟨[]⟩

/-- The first recorded block that shares a word with the given one. -/
def clash? (block : Block) : List Block → Except Fault (Option Block)
  | [] => .ok none
  | recorded :: rest =>
    match block.overlaps recorded with
    | .error fault => .error fault
    | .ok true => .ok (some recorded)
    | .ok false => clash? block rest

/-- Records a block, or answers the recorded block it clashes with. -/
def record (ledger : Ledger) (block : Block) : Except Fault (Except Block Ledger) :=
  (clash? block ledger.blocks).map fun
    | some clash => .error clash
    | none => .ok ⟨ledger.blocks ++ [block]⟩

/-- Takes out the block at a place of the ledger. -/
def releaseAt (ledger : Ledger) (index : Nat) : Except Fault (Block × Ledger) :=
  (Bag.take ledger.blocks index).map fun (block, rest) => (block, ⟨rest⟩)

/-- Takes out the first block with the given handle, if there is one. -/
def release (ledger : Ledger) (handle : Handle) : Except Fault (Option (Nat × Ledger)) :=
  match ledger.blocks.findIdx? (·.handle == handle) with
  | none => .ok none
  | some index => (ledger.releaseAt index).map fun (block, rest) => some (block.size, rest)

/-- How many words are on loan in all. -/
def liveWords (ledger : Ledger) : Except Fault Nat :=
  sumSizes (ledger.blocks.map (·.size))

end Ledger

end Allotment
