/-
An arena: a row of chunks, of which only the newest is handed out from. When the
newest chunk has no room for a request the arena grows by one chunk, and the rest
of the older chunk is never used. Chunks are given back all at once, by a reset,
which begins a new epoch so that no older handle names anything.
-/

import Allotment.Arena.Chunk
import Allotment.Arithmetic
import Allotment.Outcome.Step

namespace Allotment

/-- A row of chunks, oldest first. -/
structure Arena where
  chunks : Array Chunk
  chunkWords : Nat
  maxChunks : Option Nat
  alignment : Alignment
  carvedWords : Nat
  epoch : UInt32
deriving DecidableEq

namespace Arena

/-- An arena without chunks, in its first epoch. -/
def empty (chunkWords : Nat) (maxChunks : Option Nat) (alignment : Alignment) : Arena where
  chunks := #[]
  chunkWords := chunkWords
  maxChunks := maxChunks
  alignment := alignment
  carvedWords := 0
  epoch := 0

/-- How many words the chunks have in all. -/
def capacityWords (arena : Arena) : Nat :=
  (arena.chunks.toList.map (·.capacity)).sum

/-- How many words the newest chunk has left. -/
def remainingWords (arena : Arena) : Nat :=
  (arena.chunks.back?.map (·.remaining)).getD 0

/-- How many bytes the chunks take. -/
def memoryBytes (arena : Arena) : Nat :=
  (arena.chunks.toList.map (·.memoryBytes)).sum

/-- The newest chunk has room for a block of the given size. -/
def HasRoom (arena : Arena) (size : Nat) : Prop :=
  ∃ chunk, arena.chunks.back? = some chunk ∧ chunk.Fits arena.alignment size

instance (arena : Arena) (size : Nat) : Decidable (arena.HasRoom size) :=
  match newest : arena.chunks.back? with
  | none => .isFalse fun ⟨_, found, _⟩ => by rw [newest] at found; cases found
  | some chunk =>
    if fits : chunk.Fits arena.alignment size then .isTrue ⟨chunk, newest, fits⟩
    else .isFalse fun ⟨_, found, room⟩ => by
      rw [newest] at found
      cases found
      exact fits room

/-- The chunk budget is used up. -/
def BudgetSpent (arena : Arena) : Prop :=
  ∃ limit ∈ arena.maxChunks, limit ≤ arena.chunks.size

instance (arena : Arena) : Decidable arena.BudgetSpent :=
  inferInstanceAs (Decidable (∃ limit ∈ arena.maxChunks, limit ≤ arena.chunks.size))

/-- The size of the chunk that makes room for a request: a request larger than a usual chunk
gets a chunk of its own size. -/
def chunkSizeFor (arena : Arena) (size : Nat) : Nat :=
  max arena.chunkWords size

/-- The event of a new chunk. -/
def grewEvent (arena : Arena) (size : Nat) : Event where
  level := .debug
  message := "chunk arena grew"
  fields := [("chunk", toString arena.chunks.size),
    ("words", toString (arena.chunkSizeFor size)), ("epoch", toString arena.epoch)]

/-- Makes room for a block of the given size in the newest chunk, with one more chunk if
that is needed. The chunk takes its words and an entry in the list of chunks. -/
def ensure (memory : Memory) (arena : Arena) (size : Nat) : Step Arena (Except Refusal Unit) :=
  if arena.HasRoom size then .granted () arena
  else if arena.BudgetSpent then .refused (.capacityExceeded size arena.capacityWords) arena
  else
    match Chunk.create memory (arena.chunkSizeFor size) with
    | .error cause => .refused cause arena
    | .ok chunk =>
      if memory.grantsEntry arena.chunks.size then
        .done (.ok ()) { arena with chunks := arena.chunks.push chunk } [arena.grewEvent size]
      else .refused (.outOfMemory (arena.chunkSizeFor size)) arena

/-- Hands out a block from the newest chunk, which must have room for it. -/
def carve (arena : Arena) (size : Nat) : Step Arena Handle :=
  if size = 0 then .fault .zeroWordCarve []
  else
    match arena.chunks.back? with
    | none => .fault .differenceUnderflow []
    | some newest =>
      match newest.carve? arena.alignment size with
      | none => .fault (.carveWithoutRoom size newest.remaining) []
      | some (offset, grown) =>
        let index := arena.chunks.size - 1
        .done ⟨index.toUInt32, offset.toUInt32, arena.epoch⟩
          { arena with
            chunks := arena.chunks.setIfInBounds index grown
            carvedWords := arena.carvedWords + size } []

/-- Makes room for a block and hands it out. -/
def obtain (memory : Memory) (arena : Arena) (size : Nat) : Step Arena (Except Refusal Handle) :=
  (arena.ensure memory size).andThen fun answer next =>
    match answer with
    | .error cause => .refused cause next
    | .ok () => (next.carve size).mapAnswer .ok

/-- The chunk that a handle of the current epoch points into. -/
def chunkOf? (arena : Arena) (handle : Handle) : Option Chunk :=
  if handle.epoch = arena.epoch then arena.chunks[handle.chunk.toNat]? else none

/-- The words that a handle of the current epoch would stand for at a size were all handed
out. -/
def contains (arena : Arena) (handle : Handle) (size : Nat) : Bool :=
  match arena.chunkOf? handle with
  | none => false
  | some chunk => chunk.Contains handle.offset.toNat size

/-- The words of a handle at a size. -/
def words? (arena : Arena) (handle : Handle) (size : Nat) : Option (List Word) :=
  (arena.chunkOf? handle).bind fun chunk => chunk.words? handle.offset.toNat size

/-- Overwrites words of a handle at a size. -/
def store? (arena : Arena) (handle : Handle) (size : Nat) (patch : Patch) : Option Arena :=
  (arena.chunkOf? handle).bind fun chunk =>
    (chunk.store? handle.offset.toNat size patch).map fun stored =>
      { arena with chunks := arena.chunks.setIfInBounds handle.chunk.toNat stored }

/-- Gives all chunks back and begins the next epoch. -/
def reset (arena : Arena) : Arena :=
  { arena with chunks := #[], carvedWords := 0, epoch := arena.epoch + 1 }

/-- The words of a handle are there exactly when they were handed out. -/
theorem words?_isSome (arena : Arena) (handle : Handle) (size : Nat) :
    (arena.words? handle size).isSome = arena.contains handle size := by
  unfold words? contains
  cases arena.chunkOf? handle with
  | none => rfl
  | some chunk => exact chunk.words?_isSome handle.offset.toNat size

end Arena

end Allotment
