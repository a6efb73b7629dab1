/-
Traces: lists of loans and releases that mimic how a program uses an allocator. A
release names its block by place among the blocks on loan, so a trace can be
replayed on any allocator. Traces are drawn at random by a profile.
-/

import Allotment.Churn.Sampling
import Allotment.Memory

namespace Allotment.Churn

/-- One operation of a trace. -/
inductive Op where
  | allocate (size : Nat)
  | release (index : Nat)
deriving DecidableEq

/-- How many bytes an operation takes in a trace. -/
def opBytes : Nat := 16

/-- How to draw a trace: its length, the odds of a release, and the sizes of loans. -/
structure Profile where
  ops : Nat
  freeOdds : Odds
  sizes : List Nat
deriving DecidableEq

/-- The profile of a search over zones: two releases in five operations, and the sizes of
square matrices with one row for each of two to six clocks and one more. -/
def Profile.search (ops : Nat) : Profile where
  ops := ops
  freeOdds := ⟨0x3FD999999999999A⟩
  sizes := [2, 3, 4, 5, 6].map fun clocks => (clocks + 1) * (clocks + 1)

/-- The profile of a steady load: as many releases as loans, of two sizes. -/
def Profile.steady (ops : Nat) : Profile where
  ops := ops
  freeOdds := ⟨0x3FE0000000000000⟩
  sizes := [16, 25]

namespace Profile

/-- Draws whether the next operation is a release; it is none while nothing is on loan, and
nothing is drawn then. -/
def drawRelease (profile : Profile) (live : Nat) (draws : Draws) :
    Except Halt (Bool × Draws) :=
  if live = 0 then .ok (false, draws) else profile.freeOdds.draw draws

/-- Draws the size of a loan. -/
def drawSize (profile : Profile) (draws : Draws) : Except Halt (Nat × Draws) := do
  let (choice, later) ← drawBelow profile.sizes.length draws
  match profile.sizes[choice]? with
  | some size => return (size, later)
  | none => throw (.fault (.indexPastEnd choice profile.sizes.length))

/-- Draws an operation, given how many blocks are on loan; answers how many are on loan
after it. -/
def drawOp (profile : Profile) (live : Nat) (draws : Draws) :
    Except Halt (Op × Nat × Draws) := do
  let (isRelease, drawn) ← profile.drawRelease live draws
  if isRelease then
    let (index, later) ← drawBelow live drawn
    return (.release index, live - 1, later)
  else
    let (size, later) ← profile.drawSize drawn
    return (.allocate size, live + 1, later)

/-- Draws so many operations. -/
def drawOps (profile : Profile) : Nat → Nat → Draws → Except Halt (List Op)
  | 0, _, _ => .ok []
  | count + 1, live, draws => do
    let (op, stillLive, later) ← profile.drawOp live draws
    let rest ← profile.drawOps count stillLive later
    return op :: rest

/-- The trace of a profile and a seed. Room for all operations is asked for before the first
one is drawn. -/
def trace (profile : Profile) (seed : UInt64) : Except Halt (List Op) :=
  match reserveEntries profile.ops opBytes with
  | .error reason => .error (.fault reason)
  | .ok () => profile.drawOps profile.ops 0 (Draws.ofSeed seed)

end Profile

end Allotment.Churn
