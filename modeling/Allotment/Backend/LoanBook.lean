/-
The record of blocks on loan: for each handle at most one size, in the order in
which the loans were made.
-/

import Allotment.Block.Handle

namespace Allotment

/-- Blocks on loan, the latest loan first. -/
abbrev LoanBook := List Block

namespace LoanBook

/-- The size at which a handle is on loan. -/
def size? (book : LoanBook) (handle : Handle) : Option Nat :=
  (book.find? (·.handle = handle)).map (·.size)

/-- Strikes a handle out. -/
def erase (book : LoanBook) (handle : Handle) : LoanBook :=
  book.filter (·.handle ≠ handle)

/-- Notes a loan as the latest one, in place of an older loan of its handle. -/
def record (book : LoanBook) (block : Block) : LoanBook :=
  block :: book.erase block.handle

@[simp] theorem size?_nil (handle : Handle) : size? [] handle = none :=
  rfl

theorem size?_cons_self (block : Block) (book : LoanBook) :
    size? (block :: book) block.handle = some block.size := by
  simp [size?]

theorem size?_cons_other (block : Block) (book : LoanBook) (handle : Handle)
    (other : block.handle ≠ handle) : size? (block :: book) handle = size? book handle := by
  simp [size?, other]

/-- A handle that is struck out is on loan no more. -/
theorem size?_erase_self (book : LoanBook) (handle : Handle) :
    (book.erase handle).size? handle = none := by
  unfold size?
  rw [Option.map_eq_none_iff, List.find?_eq_none]
  intro block member
  have kept := (List.mem_filter.mp member).2
  simpa using kept

/-- Striking a handle out leaves the other loans as they are. -/
theorem size?_erase_other (book : LoanBook) (struck handle : Handle)
    (other : struck ≠ handle) : (book.erase struck).size? handle = book.size? handle := by
  induction book with
  | nil => rfl
  | cons block rest inductionHypothesis =>
    have same : LoanBook.erase (block :: rest) struck =
        if block.handle ≠ struck then block :: LoanBook.erase rest struck
        else LoanBook.erase rest struck := by
      simp [LoanBook.erase, List.filter_cons]
    rw [same]
    by_cases strikes : block.handle = struck
    · rw [if_neg (not_not_intro strikes), inductionHypothesis,
        size?_cons_other block rest handle (strikes ▸ other)]
    · rw [if_pos strikes]
      by_cases hit : block.handle = handle
      · subst hit
        rw [size?_cons_self, size?_cons_self]
      · rw [size?_cons_other _ _ _ hit, size?_cons_other _ _ _ hit, inductionHypothesis]

/-- A recorded loan is found at its size. -/
theorem size?_record_self (book : LoanBook) (block : Block) :
    (book.record block).size? block.handle = some block.size :=
  size?_cons_self block _

/-- Recording a loan leaves the loans of other handles as they are. -/
theorem size?_record_other (book : LoanBook) (block : Block) (handle : Handle)
    (other : block.handle ≠ handle) : (book.record block).size? handle = book.size? handle := by
  rw [record, size?_cons_other _ _ _ other, size?_erase_other _ _ _ other]

end LoanBook

end Allotment
