/-
The demand for blocks of each size: how many are on loan, and how many were at the same
time at most since the last reset. The words of a list of blocks are summed up by size
here, so what is known of every size is known of all words together.
-/

import Allotment.Proofs.Lending.History
import Mathlib.Algebra.BigOperators.Group.Finset.Basic
import Mathlib.Algebra.Order.BigOperators.Group.Finset

namespace Allotment

/-- The sum of numbers, each number times how often it occurs. -/
theorem sum_eq_sum_mul_count (numbers : List Nat) (largest : Nat)
    (within : ∀ number ∈ numbers, number ≤ largest) :
    numbers.sum = ∑ number ∈ Finset.range (largest + 1), number * numbers.count number := by
  have covered : numbers.toFinset ⊆ Finset.range (largest + 1) := by
    intro number member
    exact Finset.mem_range_succ_iff.mpr (within number (List.mem_toFinset.mp member))
  calc
    numbers.sum = ∑ number ∈ Finset.range (largest + 1), numbers.count number • number :=
      Finset.sum_list_count_of_subset numbers _ covered
    _ = _ := Finset.sum_congr rfl fun number _ => Nat.mul_comm _ _

namespace History

/-- How many blocks of a size are on loan. -/
def onLoan (history : History) (size : Nat) : Nat :=
  (history.loans.map (·.size)).count size

/-- How many blocks of a size wait for reuse. -/
def waiting (history : History) (size : Nat) : Nat :=
  (history.shelf.map (·.size)).count size

/-- The largest number of blocks of a size that were on loan at the same time since the last
reset. -/
def peakOf : History → Nat → Nat
  | [], _ => 0
  | .lent block :: earlier, size =>
    max (peakOf earlier size) (onLoan (.lent block :: earlier) size)
  | .returned block :: earlier, size =>
    max (peakOf earlier size) (onLoan (.returned block :: earlier) size)
  | .cleared :: _, _ => 0

section Count

variable (history : History) (block : Block) (size : Nat)

theorem peakOf_cons (deed : Deed) (kept : deed ≠ .cleared) : peakOf (deed :: history) size =
    max (history.peakOf size) (onLoan (deed :: history) size) := by
  cases deed with
  | lent block => rfl
  | returned block => rfl
  | cleared => exact absurd rfl kept

/-- A peak stays until the next reset. -/
theorem peakOf_le_append (newer : History) (kept : .cleared ∉ newer) :
    history.peakOf size ≤ peakOf (newer ++ history) size := by
  induction newer with
  | nil => exact Nat.le_refl _
  | cons deed rest inductionHypothesis =>
    rw [List.cons_append, peakOf_cons _ size deed fun equal => kept (equal ▸ List.mem_cons_self)]
    exact Nat.le_trans (inductionHypothesis fun member => kept (List.mem_cons_of_mem _ member))
      (Nat.le_max_left _ _)

/-- The blocks that are on loan now were on loan at the same time. -/
theorem onLoan_le_peakOf : history.onLoan size ≤ history.peakOf size := by
  cases history with
  | nil => exact Nat.le_refl 0
  | cons deed earlier =>
    cases deed with
    | lent block => exact Nat.le_max_right _ _
    | returned block => exact Nat.le_max_right _ _
    | cleared => exact Nat.le_refl 0

theorem onLoan_lent_self :
    onLoan (.lent block :: history) block.size = history.onLoan block.size + 1 :=
  List.count_cons_self

theorem onLoan_lent_other (other : block.size ≠ size) :
    onLoan (.lent block :: history) size = history.onLoan size :=
  List.count_cons_of_ne other

/-- A loan keeps within bounds on the peaks if fewer blocks of its size were on loan before. -/
theorem peakOf_lent_le (bound : Nat → Nat) (peaks : ∀ size, history.peakOf size ≤ bound size)
    (less : history.onLoan block.size < bound block.size) :
    peakOf (.lent block :: history) size ≤ bound size := by
  refine Nat.max_le.mpr ⟨peaks size, ?_⟩
  by_cases same : block.size = size
  · subst same
    rw [onLoan_lent_self]
    exact less
  · rw [onLoan_lent_other history block size same]
    exact Nat.le_trans (history.onLoan_le_peakOf size) (peaks size)

/-- All blocks of a size are on loan or wait. -/
theorem count_size_all :
    ((history.loans ++ history.shelf).map (·.size)).count size =
      history.onLoan size + history.waiting size := by
  rw [List.map_append, List.count_append]
  rfl

theorem waiting_eq_zero_iff :
    history.waiting size = 0 ↔ ∀ handle, ⟨handle, size⟩ ∉ history.shelf := by
  rw [waiting, List.count_eq_zero, List.mem_map, not_exists]
  refine ⟨fun none handle member => none _ ⟨member, rfl⟩, ?_⟩
  rintro none ⟨handle, _⟩ ⟨member, rfl⟩
  exact none handle member

end Count

end History

end Allotment
