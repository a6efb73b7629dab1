/-
A chunk: a run of words of fixed capacity that is handed out from the front. Words
past the used part are zero until they are handed out, so a chunk keeps only the
words in use.
-/

import Allotment.Arena.Alignment
import Allotment.Block.Contents
import Allotment.Memory

namespace Allotment

/-- A run of `capacity` words, of which the words in `data` are in use. -/
structure Chunk where
  capacity : Nat
  data : Array Word
deriving DecidableEq

namespace Chunk

/-- Reserves a chunk; none of its words is in use. -/
def create (memory : Memory) (capacity : Nat) : Except Refusal Chunk :=
  if memory.grantsWords capacity then .ok ⟨capacity, #[]⟩ else .error (.outOfMemory capacity)

/-- How many words are in use, padding included. -/
def used (chunk : Chunk) : Nat :=
  chunk.data.size

/-- How many words are left. -/
def remaining (chunk : Chunk) : Nat :=
  chunk.capacity - chunk.used

/-- How many bytes the chunk takes. -/
def memoryBytes (chunk : Chunk) : Nat :=
  chunk.capacity * bytesPerWord

/-- A block of the given size fits behind the used part, after padding. -/
def Fits (chunk : Chunk) (alignment : Alignment) (size : Nat) : Prop :=
  alignment.roundUp chunk.used + size ≤ chunk.capacity

instance (chunk : Chunk) (alignment : Alignment) (size : Nat) :
    Decidable (chunk.Fits alignment size) :=
  inferInstanceAs (Decidable (_ ≤ _))

/-- Puts a block of zero words behind the used part. -/
def extend (chunk : Chunk) (alignment : Alignment) (size : Nat) : Chunk :=
  { chunk with
    data := chunk.data ++
      Array.replicate (alignment.roundUp chunk.used + size - chunk.used) 0 }

/-- Hands out a block behind the used part: its offset, and the chunk afterwards. -/
def carve? (chunk : Chunk) (alignment : Alignment) (size : Nat) : Option (Nat × Chunk) :=
  if chunk.Fits alignment size then
    some (alignment.roundUp chunk.used, chunk.extend alignment size)
  else none

/-- A range of the given size at an offset is not empty and lies in the used part. -/
def Contains (chunk : Chunk) (offset size : Nat) : Prop :=
  0 < size ∧ offset + size ≤ chunk.used

instance (chunk : Chunk) (offset size : Nat) : Decidable (chunk.Contains offset size) :=
  inferInstanceAs (Decidable (_ ∧ _))

/-- The words of a range that the chunk contains. -/
def words? (chunk : Chunk) (offset size : Nat) : Option (List Word) :=
  if chunk.Contains offset size then some (readRange chunk.data offset size) else none

/-- Overwrites a range that the chunk contains. -/
def store? (chunk : Chunk) (offset size : Nat) (patch : Patch) : Option Chunk :=
  if chunk.Contains offset size then
    some { chunk with data := patchRange chunk.data offset size patch }
  else none

@[simp] theorem capacity_extend (chunk : Chunk) (alignment : Alignment) (size : Nat) :
    (chunk.extend alignment size).capacity = chunk.capacity :=
  rfl

@[simp] theorem used_extend (chunk : Chunk) (alignment : Alignment) (size : Nat) :
    (chunk.extend alignment size).used = alignment.roundUp chunk.used + size := by
  have padded := alignment.le_roundUp chunk.used
  simp only [used, extend, Array.size_append, Array.size_replicate] at padded ⊢
  omega

/-- The words of a range are there exactly when the chunk contains it. -/
theorem words?_isSome (chunk : Chunk) (offset size : Nat) :
    (chunk.words? offset size).isSome = decide (chunk.Contains offset size) := by
  unfold words?
  by_cases inside : chunk.Contains offset size
  · rw [if_pos inside, decide_eq_true inside]
    rfl
  · rw [if_neg inside, decide_eq_false inside]
    rfl

/-- The words of a range are as many as its size says. -/
theorem length_of_words? (chunk : Chunk) (offset size : Nat) (words : List Word)
    (found : chunk.words? offset size = some words) : words.length = size := by
  unfold words? at found
  split at found
  · next inside =>
    cases found
    exact length_readRange chunk.data offset size inside.2
  · exact nomatch found

end Chunk

end Allotment
