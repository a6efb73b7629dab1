/-
An allocator of whichever backend a configuration names. It forwards every request
to the allocator inside.
-/

import Allotment.Backend.Segregated
import Allotment.Backend.System

namespace Allotment

/-- An allocator of one of the two backends. -/
inductive BuiltAllocator where
  | arena (allocator : SegregatedAllocator)
  | system (allocator : SystemAllocator)
deriving DecidableEq

namespace BuiltAllocator

/-- The allocator that a configuration asks for. The rules bind the arena alone. -/
def ofConfig (config : Config) : Except Refusal BuiltAllocator :=
  match config.backend with
  | .arena => (SegregatedAllocator.create config).map .arena
  | .system => .ok (.system .empty)

/-- How many blocks are on loan. -/
def liveCount : BuiltAllocator → Nat
  | arena allocator => allocator.live
  | system allocator => allocator.live

instance : Allocator BuiltAllocator where
  allocate memory built size :=
    match built with
    | arena allocator => (allocator.allocate memory size).within arena
    | system allocator => (allocator.allocate memory size).within system
  deallocate built handle size :=
    match built with
    | arena allocator => (allocator.deallocate handle size).within arena
    | system allocator => (allocator.deallocate handle size).within system
  tryDeallocate built handle size :=
    match built with
    | arena allocator => (allocator.tryDeallocate handle size).within arena
    | system allocator => (allocator.tryDeallocate handle size).within system
  words? built handle size :=
    match built with
    | arena allocator => allocator.words? handle size
    | system allocator => allocator.words? handle size
  store? built handle size patch :=
    match built with
    | arena allocator => (allocator.store? handle size patch).map arena
    | system allocator => (allocator.store? handle size patch).map system

end BuiltAllocator

end Allotment
