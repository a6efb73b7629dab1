/-
The loans that a leak checker knows, in a row that is searched by handle. A new loan
goes to the end of the row, and the last one fills the gap of a loan that is struck
out. So the row does not keep the order in which the loans were made; each loan
comes with its number, and a report sorts them by it.
-/

import Allotment.Block.Bag
import Allotment.Block.Handle

namespace Allotment

/-- A block on loan, and how many loans were made before it. -/
structure NumberedLoan where
  block : Block
  number : Nat
deriving DecidableEq

/-- Loans in a row, at most one for each handle. -/
abbrev LoanIndex := List NumberedLoan

namespace LoanIndex

/-- The place of a handle in the row. -/
def placeOf? (index : LoanIndex) (handle : Handle) : Option Nat :=
  index.findIdx? (·.block.handle = handle)

/-- The size at which a handle is on loan. -/
def size? (index : LoanIndex) (handle : Handle) : Option Nat :=
  (index.find? (·.block.handle = handle)).map (·.block.size)

/-- Notes a loan: in place of an older one of its handle, or else at the end. -/
def insert (index : LoanIndex) (loan : NumberedLoan) : LoanIndex :=
  match index.placeOf? loan.block.handle with
  | none => index ++ [loan]
  | some place => index.set place loan

/-- Strikes a handle out; the last loan fills the gap. -/
def remove (index : LoanIndex) (handle : Handle) : LoanIndex :=
  match index.placeOf? handle with
  | none => index
  | some place =>
    match Bag.take index place with
    | .error _ => index
    | .ok (_, left) => left

/-- The blocks in the order of their numbers. -/
def inOrder (index : LoanIndex) : List Block :=
  (index.mergeSort fun first second => first.number ≤ second.number).map (·.block)

end LoanIndex

end Allotment
