/-
Arithmetic on sizes that a caller supplies. Sizes are counted in 64 bits, and a
result that leaves them is a fault. Counts of memory that is actually held never
come near the limit, because held memory is addressable, so those are plain
natural numbers.
-/

import Allotment.Outcome.Fault

namespace Allotment

/-- Sizes are below this number. -/
def sizeLimit : Nat := 2 ^ 64

/-- The sum of two sizes. -/
def addSizes (first second : Nat) : Except Fault Nat :=
  if first + second < sizeLimit then .ok (first + second) else .error .sumOverflow

/-- The product of two sizes. -/
def multiplySizes (first second : Nat) : Except Fault Nat :=
  if first * second < sizeLimit then .ok (first * second) else .error .productOverflow

/-- The sum of a list of sizes, added up from the front. -/
def sumSizes (sizes : List Nat) : Except Fault Nat :=
  sizes.foldlM addSizes 0

/-- Below the limit the checked sum is the sum. -/
theorem addSizes_eq_ok (first second : Nat) (fits : first + second < sizeLimit) :
    addSizes first second = .ok (first + second) :=
  if_pos fits

theorem multiplySizes_eq_ok (first second : Nat) (fits : first * second < sizeLimit) :
    multiplySizes first second = .ok (first * second) :=
  if_pos fits

end Allotment
