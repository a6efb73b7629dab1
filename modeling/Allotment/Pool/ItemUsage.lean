/-
Usage figures of an item pool. Figures may come from anywhere, so products are
checked.
-/

import Allotment.Outcome.Checked

namespace Allotment

/-- The figures of an item pool. -/
structure ItemUsage where
  poolCount : Nat
  itemsPerPool : Nat
  live : Nat
  free : Nat
  cellBytes : Nat
deriving DecidableEq

namespace ItemUsage

/-- How many bytes the cells take, multiplied out from the left. -/
def memoryBytes (usage : ItemUsage) : Except Fault Nat := do
  let cells ← multiplySizes usage.poolCount usage.itemsPerPool
  multiplySizes cells usage.cellBytes

/-- The report on the figures. -/
def report (usage : ItemUsage) : Except Fault String :=
  usage.memoryBytes.map fun bytes =>
    "item pool\n" ++
    s!"  pools: {usage.poolCount} x {usage.itemsPerPool} cells ({bytes} bytes)\n" ++
    s!"  live items: {usage.live}\n" ++
    s!"  free items: {usage.free}\n"

end ItemUsage

end Allotment
