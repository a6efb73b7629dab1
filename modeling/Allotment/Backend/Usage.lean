/-
Usage figures: how much memory an allocator holds, how much of it is on loan, and
how many released blocks of each size wait for reuse. Figures may come from
anywhere, so their totals are computed with checked arithmetic.
-/

import Allotment.Backend.FreeBlocks
import Allotment.Outcome.Checked

namespace Allotment

/-- How many released blocks of one size wait for reuse. -/
structure FreeClass where
  size : Nat
  blocks : Nat
deriving DecidableEq

namespace FreeClass

/-- Counts one more block of a size, in a list that ascends in size. -/
def tally (size : Nat) : List FreeClass → List FreeClass
  | [] => [⟨size, 1⟩]
  | head :: rest =>
    if size < head.size then ⟨size, 1⟩ :: head :: rest
    else if size = head.size then ⟨size, head.blocks + 1⟩ :: rest
    else head :: tally size rest

/-- The released blocks counted by size, smallest size first. -/
def census (free : FreeBlocks) : List FreeClass :=
  free.foldr (fun block classes => tally block.size classes) []

end FreeClass

/-- The figures of a word allocator. -/
structure Usage where
  chunkCount : Nat
  chunkWords : Nat
  capacityWords : Nat
  carvedWords : Nat
  live : Nat
  epoch : UInt32
  freeClasses : List FreeClass
deriving DecidableEq

namespace Usage

/-- How many released blocks wait for reuse. -/
def freeBlocks (usage : Usage) : Except Fault Nat :=
  sumSizes (usage.freeClasses.map (·.blocks))

/-- How many words the released blocks have in all; each class is multiplied out just
before it is added. -/
def freeWords (usage : Usage) : Except Fault Nat :=
  usage.freeClasses.foldlM
    (fun total freeClass => do
      let words ← multiplySizes freeClass.size freeClass.blocks
      addSizes total words)
    0

/-- How many bytes the chunks take. -/
def memoryBytes (usage : Usage) : Except Fault Nat :=
  multiplySizes usage.capacityWords bytesPerWord

/-- The line of one class in the report. -/
def classLine (freeClass : FreeClass) : String :=
  s!"    [{Text.column 8 freeClass.size} words] {freeClass.blocks}\n"

/-- The lines on released blocks in the report. -/
def freeLines (usage : Usage) : Except Fault String :=
  if usage.freeClasses.isEmpty then .ok "  free lists: empty\n"
  else do
    let blocks ← usage.freeBlocks
    let words ← usage.freeWords
    return s!"  free lists: {blocks} blocks, {words} words\n" ++
      String.join (usage.freeClasses.map classLine)

/-- The report on the figures. -/
def report (usage : Usage) : Except Fault String := do
  let bytes ← usage.memoryBytes
  let free ← usage.freeLines
  return s!"size-class allocator (epoch {usage.epoch})\n" ++
    s!"  chunks: {usage.chunkCount} x {usage.chunkWords} words " ++
    s!"({usage.capacityWords} words, {bytes} bytes)\n" ++
    s!"  carved: {usage.carvedWords} words\n" ++
    s!"  live allocations: {usage.live}\n" ++ free

end Usage

end Allotment
