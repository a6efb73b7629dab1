/-
The row of numbered loans against a record that is kept in order. Neither the place of a
loan in the row nor the loan that fills a gap matters to what is found under a handle; and
since every loan has a higher number than those before it, sorting by number restores the
order in which the loans were made.
-/

import Allotment.Audit.LoanIndex
import Allotment.Proofs.Lending.Books
import Mathlib.Data.List.Perm.Basic

namespace Allotment

namespace LoanIndex

/-! ### The row without the places -/

section Row

variable (index : LoanIndex) (handle : Handle)

/-- A handle that has no place is not in the row. -/
theorem filter_of_placeOf?_none (absent : index.placeOf? handle = none) :
    index.filter (·.block.handle ≠ handle) = index := by
  refine List.filter_eq_self.mpr fun loan member => decide_eq_true ?_
  exact of_decide_eq_false (List.findIdx?_eq_none_iff.mp absent loan member)

theorem handle_of_placeOf?_some (place : Nat) (found : index.placeOf? handle = some place) :
    ∃ inside : place < index.length, index[place].block.handle = handle := by
  obtain ⟨inside, names, _⟩ := List.findIdx?_eq_some_iff_getElem.mp found
  exact ⟨inside, of_decide_eq_true names⟩

variable (distinct : (index.map (·.block.handle)).Nodup)

include distinct

/-- Without its one loan under a handle, the row has the loans under the other handles. -/
theorem perm_filter (loan : NumberedLoan) (left : List NumberedLoan)
    (same : (loan :: left).Perm index) (names : loan.block.handle = handle) :
    left.Perm (index.filter (·.block.handle ≠ handle)) := by
  have apart : ∀ other ∈ left, other.block.handle ≠ handle := by
    have nodup := (same.map (·.block.handle)).nodup_iff.mpr distinct
    rw [List.map_cons, List.nodup_cons] at nodup
    exact fun other member equal => nodup.1 (names ▸ equal ▸ List.mem_map_of_mem member)
  have kept : (loan :: left).filter (·.block.handle ≠ handle) = left := by
    rw [List.filter_cons_of_neg (by simp [names])]
    exact List.filter_eq_self.mpr fun other member => decide_eq_true (apart other member)
  have filtered := same.filter (·.block.handle ≠ handle)
  rwa [kept] at filtered

theorem remove_perm : (index.remove handle).Perm (index.filter (·.block.handle ≠ handle)) := by
  unfold remove
  cases found : index.placeOf? handle with
  | none => rw [filter_of_placeOf?_none index handle found]
  | some place =>
    obtain ⟨inside, names⟩ := handle_of_placeOf?_some index handle place found
    obtain ⟨left, taken, same⟩ := Bag.exists_take index place inside
    simp only [taken]
    exact perm_filter index handle distinct _ left same names

theorem insert_perm (loan : NumberedLoan) : (index.insert loan).Perm
    (loan :: index.filter (·.block.handle ≠ loan.block.handle)) := by
  unfold insert
  cases found : index.placeOf? loan.block.handle with
  | none =>
    rw [filter_of_placeOf?_none index _ found]
    exact List.perm_append_singleton _ _
  | some place =>
    obtain ⟨inside, names⟩ := handle_of_placeOf?_some index _ place found
    refine (List.set_perm_cons_eraseIdx inside loan).trans (List.Perm.cons _ ?_)
    exact perm_filter index _ distinct _ _ (List.getElem_cons_eraseIdx_perm inside) names

end Row

/-! ### The row in order -/

/-- Loans of the row that ascend in number are the row sorted. -/
theorem inOrder_eq_map (index : LoanIndex) (loans : List NumberedLoan) (same : index.Perm loans)
    (ascending : loans.Pairwise fun first second => first.number < second.number) :
    index.inOrder = loans.map (·.block) := by
  have distinct : (loans.map (·.number)).Nodup :=
    List.pairwise_map.mpr (ascending.imp fun less => Nat.ne_of_lt less)
  have sorted : (index.mergeSort fun first second => first.number ≤ second.number).Pairwise
      fun first second => first.number ≤ second.number := by
    refine (List.pairwise_mergeSort ?_ ?_ index).imp of_decide_eq_true
    · exact fun first second third before after => decide_eq_true
        (Nat.le_trans (of_decide_eq_true before) (of_decide_eq_true after))
    · exact fun first second => by simpa using Nat.le_total first.number second.number
  refine congrArg (List.map (·.block)) (List.Perm.eq_of_pairwise
    (fun first second firstMember secondMember before after => ?_) sorted
    (ascending.imp Nat.le_of_lt) ((List.mergeSort_perm _ _).trans same))
  -- No two loans have the same number, so only one arrangement of them ascends.
  have inside := same.mem_iff.mp ((List.mergeSort_perm _ _).mem_iff.mp firstMember)
  exact List.inj_on_of_nodup_map distinct inside secondMember (Nat.le_antisymm before after)

/-! ### The row and the record -/

/-- The row has the loans of a record in some order. Their numbers tell the order in which they
were made, and are below a count. -/
def Lists (index : LoanIndex) (book : LoanBook) (count : Nat) : Prop :=
  ∃ loans : List NumberedLoan, index.Perm loans ∧ loans.map (·.block) = book ∧
    loans.Pairwise (fun later earlier => earlier.number < later.number) ∧
    (∀ loan ∈ loans, loan.number < count) ∧ (book.map (·.handle)).Nodup

theorem map_block_filter (loans : List NumberedLoan) (handle : Handle) :
    (loans.filter (·.block.handle ≠ handle)).map (·.block) =
      LoanBook.erase (loans.map (·.block)) handle := by
  rw [LoanBook.erase, List.filter_map]
  rfl

theorem lists_nil (count : Nat) : Lists [] [] count :=
  ⟨[], .refl _, rfl, .nil, nofun, .nil⟩

variable {index : LoanIndex} {book : LoanBook} {count : Nat}

/-- The blocks of the row are those of the record. -/
theorem Lists.perm (lists : index.Lists book count) : (index.map (·.block)).Perm book := by
  obtain ⟨loans, same, rfl, _⟩ := lists
  exact same.map _

theorem Lists.length (lists : index.Lists book count) :
    List.length index = List.length book := by
  obtain ⟨loans, same, rfl, _⟩ := lists
  rw [same.length_eq, List.length_map]

theorem Lists.nodup (lists : index.Lists book count) :
    (index.map (·.block.handle)).Nodup := by
  obtain ⟨loans, same, rfl, _, _, distinct⟩ := lists
  rw [List.map_map] at distinct
  exact (same.map _).nodup_iff.mpr distinct

theorem Lists.nodup_book (lists : index.Lists book count) : (book.map (·.handle)).Nodup := by
  obtain ⟨_, _, _, _, _, distinct⟩ := lists
  exact distinct

/-- A handle has the same size in the row and in the record. -/
theorem Lists.size? (lists : index.Lists book count) (handle : Handle) :
    index.size? handle = book.size? handle := by
  have blocks : index.size? handle = LoanBook.size? (index.map (·.block)) handle := by
    rw [LoanBook.size?, List.find?_map, Option.map_map]
    rfl
  have distinct : ((index.map (·.block)).map (·.handle)).Nodup := by
    rw [List.map_map]
    exact lists.nodup
  obtain ⟨loans, same, rfl, _⟩ := lists
  rw [blocks]
  exact LoanBook.size?_perm _ _ (same.map _) distinct handle

/-- Striking a handle out of the row strikes it out of the record. -/
theorem Lists.erase (lists : index.Lists book count) (handle : Handle) :
    (index.remove handle).Lists (book.erase handle) count := by
  have nodup := lists.nodup
  obtain ⟨loans, same, rfl, ordered, below, distinct⟩ := lists
  refine ⟨loans.filter (·.block.handle ≠ handle),
    (remove_perm index handle nodup).trans (same.filter _), map_block_filter loans handle,
    ordered.filter _, fun loan member => below loan (List.mem_of_mem_filter member), ?_⟩
  exact distinct.sublist (List.filter_sublist.map _)

/-- A loan that gets the next number is the latest one of the record. -/
theorem Lists.record (lists : index.Lists book count) (block : Block) :
    (index.insert ⟨block, count⟩).Lists (book.record block) (count + 1) := by
  have nodup := lists.nodup
  obtain ⟨loans, same, rfl, ordered, below, distinct⟩ := lists
  have belowKept : ∀ loan ∈ loans.filter (·.block.handle ≠ block.handle), loan.number < count :=
    fun loan member => below loan (List.mem_of_mem_filter member)
  refine ⟨⟨block, count⟩ :: loans.filter (·.block.handle ≠ block.handle),
    (insert_perm index nodup ⟨block, count⟩).trans ((same.filter _).cons _), ?_,
    List.pairwise_cons.mpr ⟨belowKept, ordered.filter _⟩, fun loan member => ?_, ?_⟩
  · exact congrArg (block :: ·) (map_block_filter loans block.handle)
  · rcases List.mem_cons.mp member with rfl | kept
    · exact Nat.lt_succ_self count
    · exact Nat.lt_succ_of_lt (belowKept loan kept)
  · rw [LoanBook.record, List.map_cons, List.nodup_cons]
    refine ⟨fun repeated => ?_, distinct.sublist (List.filter_sublist.map _)⟩
    obtain ⟨other, kept, equal⟩ := List.mem_map.mp repeated
    exact (LoanBook.mem_erase_iff.mp kept).2 equal

/-- Sorted by number, the loans are in the order in which they were made. -/
theorem Lists.inOrder (lists : index.Lists book count) : index.inOrder = book.reverse := by
  obtain ⟨loans, same, rfl, ordered, _⟩ := lists
  rw [inOrder_eq_map index loans.reverse (same.trans loans.reverse_perm.symm)
    (List.pairwise_reverse.mpr ordered), List.map_reverse]

end LoanIndex

end Allotment
