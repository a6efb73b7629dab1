/-
What a caller across the boundary may ask of one allocator, and how the allocator
serves it. A caller hands over places to write results to and words to read; each
may be missing. An arena behind the boundary is always asked through its checked
operations, so no request can break a precondition.
-/

import Allotment.Backend.Built
import Allotment.Boundary.Encoding
import Allotment.Boundary.Status

namespace Allotment

/-- A place of the caller's that a result is written to. -/
inductive Place where
  | missing
  | given
deriving DecidableEq

/-- A request to one allocator. The words to write are given position by position. -/
inductive Request where
  | allocate (size : Nat) (result : Place)
  | deallocate (block : BlockReference) (size : Nat)
  | write (block : BlockReference) (source : Option (Nat → Word)) (size : Nat)
  | read (block : BlockReference) (target : Place) (size : Nat)
  | reset (force : Bool)
  | liveCount (result : Place)

/-- What a call writes to the caller's place. -/
inductive Output where
  | key (packed : UInt64)
  | block (reference : BlockReference)
  | words (contents : List Word)
  | count (number : Nat)
deriving DecidableEq

/-- How a call ended, and what it wrote. -/
structure Reply where
  status : Status
  output : Option Output
deriving DecidableEq

namespace Reply

/-- A call that ended with a status and wrote nothing. -/
def bare (status : Status) : Reply := ⟨status, none⟩

/-- A call that succeeded and wrote a result. -/
def wrote (output : Output) : Reply := ⟨.ok, some output⟩

end Reply

namespace BuiltAllocator

/-- Lends a block by the checked operation of the backend. -/
def lend (memory : Memory) (size : Nat) : BuiltAllocator →
    Step BuiltAllocator (Except Refusal Handle)
  | arena allocator => (allocator.tryAllocate memory size).within arena
  | system allocator => (allocator.allocate memory size).within system

/-- Resets an arena, by force or only if nothing is on loan. -/
def reset (force : Bool) : BuiltAllocator → Step BuiltAllocator Status
  | arena allocator =>
    if force then (allocator.reset.mapAnswer fun _ => Status.ok).within arena
    else (allocator.tryReset.mapAnswer Status.ofAnswer).within arena
  | system allocator => .done .unsupported (system allocator) []

end BuiltAllocator

namespace Request

/-- The reply that needs no allocator: a place that is missing is an invalid argument, and
reading or writing no words succeeds whatever the key and the block are. -/
def early? : Request → Option Reply
  | allocate _ .missing => some (.bare .invalidArgument)
  | liveCount .missing => some (.bare .invalidArgument)
  | write _ source size =>
    if size = 0 then some (.bare .ok)
    else if source.isNone then some (.bare .invalidArgument)
    else none
  | read _ target size =>
    if size = 0 then some (.wrote (.words []))
    else if target = .missing then some (.bare .invalidArgument)
    else none
  | _ => none

/-- The reply to a loan. -/
def loanReply : Except Refusal Handle → Reply
  | .ok handle => .wrote (.block (.ofHandle handle))
  | .error cause => .bare (.ofRefusal cause)

/-- Serves a request that has no early reply. -/
def serve (memory : Memory) (allocator : BuiltAllocator) :
    Request → Step BuiltAllocator Reply
  | allocate size _ => (allocator.lend memory size).mapAnswer loanReply
  | deallocate block size =>
    (Allocator.tryDeallocate allocator block.handle size).mapAnswer fun answer =>
      .bare (.ofAnswer answer)
  | write block source size =>
    match Allocator.store? allocator block.handle size fun position => source.map (· position) with
    | none => .done (.bare .foreignBlock) allocator []
    | some stored => .done (.bare .ok) stored []
  | read block _ size =>
    match Allocator.words? allocator block.handle size with
    | none => .done (.bare .foreignBlock) allocator []
    | some contents => .done (.wrote (.words contents)) allocator []
  | reset force => (allocator.reset force).mapAnswer .bare
  | liveCount _ => .done (.wrote (.count allocator.liveCount)) allocator []

end Request

end Allotment
