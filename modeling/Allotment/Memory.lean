/-
The memory that allocators reserve from. Whether a reservation is granted depends
on its size alone, so a run of an allocator is a function of its requests. The list
of the pieces that were reserved takes room as well, and that too may be refused. An
allocator is told when a reservation fails; a list that has to hold its entries at
all costs is not, and asking for more room than can be addressed is a fault.
-/

import Allotment.Outcome.Fault

namespace Allotment

/-- Which reservations are granted: of so many words, of so many item cells, and of room for
one more entry in a list of so many. -/
structure Memory where
  grantsWords : Nat → Bool
  grantsCells : Nat → Bool
  grantsEntry : Nat → Bool

/-- The memory of a 64-bit machine: a reservation fails only when it cannot be addressed. -/
def Memory.addressable : Memory where
  grantsWords size := size < 2 ^ 61
  grantsCells count := count < 2 ^ 60
  grantsEntry count := count < 2 ^ 57

/-- The memory that grants every reservation. -/
def Memory.unlimited : Memory where
  grantsWords _ := true
  grantsCells _ := true
  grantsEntry _ := true

/-- The memory that grants no reservation. -/
def Memory.exhausted : Memory where
  grantsWords _ := false
  grantsCells _ := false
  grantsEntry _ := false

/-- The bytes of one piece of memory are below this number: half of what 64 bits address. -/
def pieceLimit : Nat := 2 ^ 63

/-- Room in one piece for so many entries that a list has to hold. -/
def reserveEntries (count bytesPerEntry : Nat) : Except Fault Unit :=
  if count * bytesPerEntry < pieceLimit then .ok () else .error .capacityOverflow

/-- Room is granted exactly for the pieces below the limit. -/
theorem reserveEntries_eq_ok_iff (count bytesPerEntry : Nat) :
    reserveEntries count bytesPerEntry = .ok () ↔ count * bytesPerEntry < pieceLimit := by
  unfold reserveEntries
  split
  · next fits => exact ⟨fun _ => fits, fun _ => rfl⟩
  · next tooLarge => exact ⟨nofun, fun fits => absurd fits tooLarge⟩

end Allotment
