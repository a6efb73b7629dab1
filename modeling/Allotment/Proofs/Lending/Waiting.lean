/-
Blocks that wait for reuse, as the history of one size tells it. The shelf of a history holds
the waiting blocks with the latest return first, and its blocks of one size are the shelf of
the deeds about blocks of that size alone.
-/

import Allotment.Proofs.Lending.History

namespace Allotment

/-- The deed is about a block of a size. -/
def Deed.IsOfSize (size : Nat) : Deed → Bool
  | .lent block => block.size = size
  | .returned block => block.size = size
  | .cleared => false

namespace History

/-- The deeds since the last reset about blocks of one size. -/
def ofSize (history : History) (size : Nat) : History :=
  history.current.filter (Deed.IsOfSize size)

/-- How many deeds there were since the block came back. -/
def sinceReturn (history : History) (block : Block) : Nat :=
  history.idxOf (.returned block)

/-- The blocks on the shelf are in the order in which they came back, the latest return first. -/
def InOrder (history : History) : Prop :=
  history.shelf.Pairwise fun newer older => history.sinceReturn newer < history.sinceReturn older

/-! ### One size alone -/

section Order

variable {history : History} (block : Block)

/-- A loan keeps the order of the blocks that go on waiting. -/
theorem InOrder.lent (ordered : history.InOrder) : InOrder (.lent block :: history) := by
  have older (other : Block) :
      sinceReturn (.lent block :: history) other = history.sinceReturn other + 1 :=
    List.idxOf_cons_ne history Deed.noConfusion
  refine (ordered.sublist List.erase_sublist).imp fun {first second} before => ?_
  rw [older first, older second]
  exact Nat.succ_lt_succ before

/-- A block that comes back goes in front. -/
theorem InOrder.returned (ordered : history.InOrder) (new : block ∉ history.shelf) :
    InOrder (.returned block :: history) := by
  have older (other : Block) (member : other ∈ history.shelf) :
      sinceReturn (.returned block :: history) other = history.sinceReturn other + 1 :=
    List.idxOf_cons_ne history fun equal => new (Deed.returned.inj equal ▸ member)
  refine List.pairwise_cons.mpr ⟨fun other member => ?_, ?_⟩
  · rw [older other member, sinceReturn, List.idxOf_cons_self]
    exact Nat.succ_pos _
  · refine ordered.imp_of_mem fun {first second} firstMember secondMember before => ?_
    rw [older first firstMember, older second secondMember]
    exact Nat.succ_lt_succ before

end Order

end History

end Allotment
