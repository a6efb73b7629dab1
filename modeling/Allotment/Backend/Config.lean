/-
The configuration of a word allocator and its rules. The rules keep every offset of
a chunk and every chunk number within the 32 bits of a handle, and make a whole
chunk allocatable under double-word alignment.
-/

import Allotment.Arena.Alignment

namespace Allotment

/-- Where blocks come from: carved out of chunks, or each from the system. -/
inductive Backend where
  | arena
  | system
deriving DecidableEq

/-- The settings of a word allocator. -/
structure Config where
  chunkWords : Nat := 2 ^ 22
  maxChunks : Option Nat := none
  alignment : Alignment := .word
  backend : Backend := .arena
  trackLoans : Bool := false
deriving DecidableEq

namespace Config

/-- Checks the rules in their order and names the first one that is broken. -/
def validate (config : Config) : Except Refusal Unit :=
  if config.chunkWords < 2 then
    .error (.invalidConfig s!"chunk_words must be >= 2 (got {config.chunkWords})")
  else if fieldLimit < config.chunkWords then
    .error (.invalidConfig s!"chunk_words must fit a u32 offset (got {config.chunkWords})")
  else if config.alignment = .doubleWord ∧ config.chunkWords % 2 ≠ 0 then
    .error (.invalidConfig
      s!"chunk_words must be even with double-word alignment (got {config.chunkWords})")
  else
    match config.maxChunks with
    | none => .ok ()
    | some limit =>
      if limit = 0 ∨ fieldLimit < limit then
        .error (.invalidConfig s!"max_chunks must be in 1..=u32::MAX (got {limit})")
      else .ok ()

/-- The largest block that one chunk can hold. -/
def maxRequestWords (config : Config) : Nat :=
  config.chunkWords

/-- How many bytes a chunk takes. -/
def chunkBytes (config : Config) : Except Fault Nat :=
  multiplySizes config.chunkWords bytesPerWord

end Config

end Allotment
