/-
Replaying a trace on an allocator. The replay keeps the blocks on loan in a bag and
takes the released one out of it. It ends at the first refused loan, or with the
trace; then it gives every block back and answers how many there were.
-/

import Allotment.Backend.Allocator
import Allotment.Block.Bag
import Allotment.Churn.Trace
import Allotment.Pool.ItemPool

namespace Allotment.Churn

/-! ### On a word allocator -/

section Words

variable {σ : Type} [Allocator σ]

/-- The allocator after the size of a new block was written into its first word. -/
def stamp (allocator : σ) (handle : Handle) (size : Nat) : σ :=
  Allocator.store allocator handle size (.first size.toUInt32)

/-- Carries out operations; answers the blocks on loan at the end. -/
def runWords (memory : Memory) : List Op → List Block → σ → Step σ (List Block)
  | [], held, allocator => .done held allocator []
  | .allocate size :: rest, held, allocator =>
    (Allocator.allocate memory allocator size).andThen fun answer next =>
      match answer with
      | .error _ => .done held next []
      | .ok handle => runWords memory rest (held ++ [⟨handle, size⟩]) (stamp next handle size)
  | .release index :: rest, held, allocator =>
    match Bag.take held index with
    | .error reason => .fault reason []
    | .ok (block, left) =>
      (Allocator.deallocate allocator block.handle block.size).andThen fun _ next =>
        runWords memory rest left next

/-- Gives blocks back, one after the other. -/
def giveBack : List Block → σ → Step σ Unit
  | [], allocator => .done () allocator []
  | block :: rest, allocator =>
    (Allocator.deallocate allocator block.handle block.size).andThen fun _ next =>
      giveBack rest next

/-- Replays a trace on a word allocator. -/
def replayWords (memory : Memory) (allocator : σ) (trace : List Op) : Step σ Nat :=
  (runWords memory trace [] allocator).andThen fun held next =>
    (giveBack held next).mapAnswer fun _ => held.length

end Words

/-! ### On an item pool -/

/-- An item of four equal numbers: what a loan stands for where no words are lent. -/
structure Quad where
  value : UInt64
deriving DecidableEq

instance : ItemLayout Quad := ⟨32, 40⟩

/-- Carries out operations on a pool; answers the items stored at the end. -/
def runItems (memory : Memory) : List Op → List ItemHandle → ItemPool Quad →
    Step (ItemPool Quad) (List ItemHandle)
  | [], held, pool => .done held pool []
  | .allocate size :: rest, held, pool =>
    (pool.allocate memory ⟨size.toUInt64⟩).andThen fun answer next =>
      match answer with
      | .error _ => .done held next []
      | .ok handle => runItems memory rest (held ++ [handle]) next
  | .release index :: rest, held, pool =>
    match Bag.take held index with
    | .error reason => .fault reason []
    | .ok (handle, left) =>
      (pool.deallocate handle).andThen fun _ next => runItems memory rest left next

/-- Takes items out, one after the other. -/
def takeOut : List ItemHandle → ItemPool Quad → Step (ItemPool Quad) Unit
  | [], pool => .done () pool []
  | handle :: rest, pool => (pool.deallocate handle).andThen fun _ next => takeOut rest next

/-- Replays a trace on an item pool: each loan is one item. -/
def replayItems (memory : Memory) (pool : ItemPool Quad) (trace : List Op) :
    Step (ItemPool Quad) Nat :=
  (runItems memory trace [] pool).andThen fun held next =>
    (takeOut held next).mapAnswer fun _ => held.length

/-! ### Without an allocator -/

/-- Carries out operations on plain values; answers the values kept at the end. -/
def runPlain : List Op → List Quad → Except Fault (List Quad)
  | [], held => .ok held
  | .allocate size :: rest, held => runPlain rest (held ++ [⟨size.toUInt64⟩])
  | .release index :: rest, held =>
    match Bag.take held index with
    | .error reason => .error reason
    | .ok (_, left) => runPlain rest left

/-- Replays a trace on plain values, the yardstick for the allocators. -/
def replayPlain (trace : List Op) : Except Fault Nat :=
  (runPlain trace []).map List.length

end Allotment.Churn
