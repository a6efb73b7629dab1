/-
What every word allocator offers, whatever it keeps its blocks in. Allocation and
release come in an unchecked form, whose preconditions are the caller's duty, and
release also in a checked form that refuses a bad request. The words of a handle
are reached at a size, and only where that many words are really there.
-/

import Allotment.Block.Contents
import Allotment.Memory
import Allotment.Outcome.Step

namespace Allotment

/-- The operations of a word allocator with state `σ`. -/
class Allocator (σ : Type) where
  /-- Lends a block of the given size. -/
  allocate : Memory → σ → Nat → Step σ (Except Refusal Handle)
  /-- Takes a block back; a bad request is a fault. -/
  deallocate : σ → Handle → Nat → Step σ Unit
  /-- Takes a block back; a bad request is refused. -/
  tryDeallocate : σ → Handle → Nat → Step σ (Except Refusal Unit)
  /-- The words of a handle at a size. -/
  words? : σ → Handle → Nat → Option (List Word)
  /-- Overwrites words of a handle at a size. -/
  store? : σ → Handle → Nat → Patch → Option σ

namespace Allocator

variable {σ : Type} [Allocator σ]

/-- Overwrites words of a handle where they are reachable, and changes nothing where they
are not. -/
def store (allocator : σ) (handle : Handle) (size : Nat) (patch : Patch) : σ :=
  (store? allocator handle size patch).getD allocator

/-- Lends a block of zero words. -/
def allocateZeroed (memory : Memory) (allocator : σ) (size : Nat) :
    Step σ (Except Refusal Handle) :=
  match allocate memory allocator size with
  | .done (.ok handle) next events =>
    .done (.ok handle) (store next handle size (.constant 0)) events
  | refusedOrFault => refusedOrFault

end Allocator

end Allotment
