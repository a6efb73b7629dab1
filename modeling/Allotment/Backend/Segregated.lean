/-
The segregated allocator: blocks are carved out of an arena, and a released block
is reused for requests of exactly its size, the latest release first. It can record
its loans; then every release is checked against the record, and otherwise only
against the carved range and the released blocks of the size.
-/

import Allotment.Arena.Growth
import Allotment.Backend.Allocator
import Allotment.Backend.Config
import Allotment.Backend.LoanBook
import Allotment.Backend.Usage

namespace Allotment

/-- An arena with released blocks, a count of the blocks on loan and, if loans are tracked,
their record. -/
structure SegregatedAllocator where
  config : Config
  arena : Arena
  free : FreeBlocks
  live : Nat
  loans : Option LoanBook
deriving DecidableEq

namespace SegregatedAllocator

/-- An allocator that holds no memory yet. -/
def fresh (config : Config) : SegregatedAllocator where
  config := config
  arena := Arena.empty config.chunkWords config.maxChunks config.alignment
  free := []
  live := 0
  loans := if config.trackLoans then some [] else none

/-- An allocator for a configuration that keeps the rules. -/
def create (config : Config) : Except Refusal SegregatedAllocator :=
  config.validate.map fun _ => fresh config

/-! ### Lending -/

/-- The allocator after a block went on loan. -/
def lend (allocator : SegregatedAllocator) (block : Block) : SegregatedAllocator :=
  { allocator with
    live := allocator.live + 1
    loans := allocator.loans.map (·.record block) }

/-- Lends a block: the latest released one of the size, or else a new one. The size must not
be zero nor exceed a chunk. -/
def allocate (memory : Memory) (allocator : SegregatedAllocator) (size : Nat) :
    Step SegregatedAllocator (Except Refusal Handle) :=
  if size = 0 then .fault .zeroWordAllocation []
  else if allocator.config.maxRequestWords < size then
    .fault (.oversizeAllocation size allocator.config.maxRequestWords) []
  else
    match allocator.free.take? size with
    | some (handle, left) =>
      .granted handle ({ allocator with free := left }.lend ⟨handle, size⟩)
    | none =>
      match allocator.arena.obtain memory size with
      | .fault reason events => .fault reason events
      | .done (.error cause) same events =>
        .done (.error cause) { allocator with arena := same } events
      | .done (.ok handle) carved events =>
        .done (.ok handle) ({ allocator with arena := carved }.lend ⟨handle, size⟩) events

/-- Lends a block, and refuses a size that is zero or exceeds a chunk. -/
def tryAllocate (memory : Memory) (allocator : SegregatedAllocator) (size : Nat) :
    Step SegregatedAllocator (Except Refusal Handle) :=
  if size = 0 then .refused .zeroSize allocator
  else if allocator.config.maxRequestWords < size then
    .refused (.oversize size allocator.config.maxRequestWords) allocator
  else allocator.allocate memory size

/-! ### Releasing -/

/-- The allocator after a block came back, given the record of the remaining loans. -/
def shelve (allocator : SegregatedAllocator) (block : Block) (loans : Option LoanBook) :
    SegregatedAllocator :=
  { allocator with
    free := block :: allocator.free
    live := allocator.live - 1
    loans := loans }

/-- Takes a block back. It must be carved memory of the current epoch, something must be on
loan, and a record of loans must hold the block at this size. -/
def deallocate (allocator : SegregatedAllocator) (handle : Handle) (size : Nat) :
    Step SegregatedAllocator Unit :=
  if size = 0 then .fault .zeroWordDeallocation []
  else if allocator.arena.contains handle size = false then
    .fault (.notCarved handle size allocator.arena.epoch) []
  else if allocator.live = 0 then .fault (.noOutstandingLoans handle) []
  else
    match allocator.loans with
    | none => .done () (allocator.shelve ⟨handle, size⟩ none) []
    | some book =>
      if book.size? handle = some size then
        .done () (allocator.shelve ⟨handle, size⟩ (some (book.erase handle))) []
      else .fault (.notLoan handle size (book.size? handle)) []

/-- The check of a release against the record of loans: the block must be on loan at this
size, and a block that is not on loan was released before or never issued. -/
def checkAgainstRecord (allocator : SegregatedAllocator) (book : LoanBook) (handle : Handle)
    (size : Nat) : Except Refusal Unit :=
  match book.size? handle with
  | some expected =>
    if expected = size then .ok () else .error (.sizeMismatch handle expected size)
  | none =>
    if allocator.free.holds handle then .error (.doubleFree handle)
    else .error (.foreignHandle handle)

/-- The check of a release without a record: the words must be carved, and the block must not
wait for reuse at this size. -/
def checkCarved (allocator : SegregatedAllocator) (handle : Handle) (size : Nat) :
    Except Refusal Unit :=
  if allocator.arena.contains handle size = false then .error (.foreignHandle handle)
  else if ⟨handle, size⟩ ∈ allocator.free then .error (.doubleFree handle)
  else .ok ()

/-- What a checked release is refused for. -/
def checkRelease (allocator : SegregatedAllocator) (handle : Handle) (size : Nat) :
    Except Refusal Unit :=
  if size = 0 then .error .zeroSize
  else if handle.epoch ≠ allocator.arena.epoch then
    .error (.staleHandle handle.epoch allocator.arena.epoch)
  else
    match allocator.loans with
    | some book => allocator.checkAgainstRecord book handle size
    | none => allocator.checkCarved handle size

/-- Takes a block back if the release passes the check. -/
def tryDeallocate (allocator : SegregatedAllocator) (handle : Handle) (size : Nat) :
    Step SegregatedAllocator (Except Refusal Unit) :=
  match allocator.checkRelease handle size with
  | .error cause => .refused cause allocator
  | .ok () => (allocator.deallocate handle size).mapAnswer .ok

/-! ### Resetting -/

/-- The allocator after a reset: no memory, no loans, and the next epoch. -/
def cleared (allocator : SegregatedAllocator) : SegregatedAllocator :=
  { allocator with
    arena := allocator.arena.reset
    free := []
    live := 0
    loans := allocator.loans.map fun _ => [] }

/-- The events of a reset: a warning if blocks are on loan, and the reset itself. -/
def resetEvents (allocator : SegregatedAllocator) : List Event :=
  (if allocator.live = 0 then [] else
    [⟨.warn, "size-class allocator reset with outstanding allocations",
      [("live", toString allocator.live), ("epoch", toString allocator.arena.epoch)]⟩]) ++
  [⟨.debug, "size-class allocator reset",
    [("chunks", toString allocator.arena.chunks.size),
      ("carved_words", toString allocator.arena.carvedWords)]⟩]

/-- Gives all memory back, whatever is on loan. -/
def reset (allocator : SegregatedAllocator) : Step SegregatedAllocator Unit :=
  .done () allocator.cleared allocator.resetEvents

/-- Gives all memory back, and refuses while blocks are on loan. -/
def tryReset (allocator : SegregatedAllocator) :
    Step SegregatedAllocator (Except Refusal Unit) :=
  if 0 < allocator.live then .refused (.liveAllocations allocator.live) allocator
  else allocator.reset.mapAnswer .ok

/-! ### Looking -/

/-- The words of a handle at a size. -/
def words? (allocator : SegregatedAllocator) (handle : Handle) (size : Nat) :
    Option (List Word) :=
  allocator.arena.words? handle size

/-- Overwrites words of a handle at a size. -/
def store? (allocator : SegregatedAllocator) (handle : Handle) (size : Nat) (patch : Patch) :
    Option SegregatedAllocator :=
  (allocator.arena.store? handle size patch).map fun stored => { allocator with arena := stored }

/-- The block waits for reuse at this size. -/
def isFree (allocator : SegregatedAllocator) (handle : Handle) (size : Nat) : Bool :=
  ⟨handle, size⟩ ∈ allocator.free

/-- The block is carved memory of the current epoch, or waits for reuse. -/
def owns (allocator : SegregatedAllocator) (handle : Handle) (size : Nat) : Bool :=
  allocator.arena.contains handle size || allocator.isFree handle size

/-- How many blocks of a size wait for reuse. -/
def freeCount (allocator : SegregatedAllocator) (size : Nat) : Nat :=
  (allocator.free.ofSize size).length

/-- The loans are recorded. -/
def tracksLoans (allocator : SegregatedAllocator) : Bool :=
  allocator.loans.isSome

/-- The figures of the allocator. -/
def usage (allocator : SegregatedAllocator) : Usage where
  chunkCount := allocator.arena.chunks.size
  chunkWords := allocator.arena.chunkWords
  capacityWords := allocator.arena.capacityWords
  carvedWords := allocator.arena.carvedWords
  live := allocator.live
  epoch := allocator.arena.epoch
  freeClasses := FreeClass.census allocator.free

instance : Allocator SegregatedAllocator where
  allocate memory allocator size := allocator.allocate memory size
  deallocate := deallocate
  tryDeallocate := tryDeallocate
  words? := words?
  store? := store?

end SegregatedAllocator

end Allotment
