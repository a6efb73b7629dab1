/-
What a history counts: the handles that were lent, and the most blocks that were on loan
at the same time. An allocator that never lends under a handle to which something happened
before lends under each handle once, and what came back stays back.
-/

import Allotment.Proofs.Lending.History

namespace Allotment

namespace History

/-! ### Counts -/

/-- The handles that blocks were lent under, the latest first. -/
def issued : History → List Handle
  | [] => []
  | .lent block :: earlier => block.handle :: issued earlier
  | .returned _ :: earlier => issued earlier
  | .cleared :: earlier => issued earlier

/-- The largest number of blocks that were on loan at the same time. -/
def peak : History → Nat
  | [] => 0
  | deed :: earlier => max (peak earlier) (loans (deed :: earlier)).length

theorem mem_issued_iff (history : History) (handle : Handle) :
    handle ∈ history.issued ↔ ∃ size, .lent ⟨handle, size⟩ ∈ history := by
  induction history with
  | nil => simp [issued]
  | cons deed earlier inductionHypothesis =>
    cases deed with
    | lent block =>
      obtain ⟨other, words⟩ := block
      simp only [issued, List.mem_cons, inductionHypothesis, Deed.lent.injEq, Block.mk.injEq]
      constructor
      · rintro (rfl | ⟨size, older⟩)
        · exact ⟨words, Or.inl ⟨rfl, rfl⟩⟩
        · exact ⟨size, Or.inr older⟩
      · rintro ⟨size, ⟨same, _⟩ | older⟩
        · exact Or.inl same
        · exact Or.inr ⟨size, older⟩
    | returned block => simp [issued, inductionHypothesis]
    | cleared => simp [issued, inductionHypothesis]

/-! ### Handles that are lent once -/

/-- There was no reset, and every block was lent under a handle that nothing had happened to. -/
def Unrepeated : History → Prop
  | [] => True
  | .lent block :: earlier => Unrepeated earlier ∧ latest? earlier block.handle = none
  | .returned _ :: earlier => Unrepeated earlier
  | .cleared :: _ => False

namespace Unrepeated

theorem current_eq (history : History) (unrepeated : history.Unrepeated) :
    history.current = history := by
  induction history with
  | nil => rfl
  | cons deed earlier inductionHypothesis =>
    cases deed with
    | lent block => exact congrArg _ (inductionHypothesis unrepeated.1)
    | returned block => exact congrArg _ (inductionHypothesis unrepeated)
    | cleared => exact unrepeated.elim

theorem nodup_issued (history : History) (unrepeated : history.Unrepeated)
    (accounted : history.Accounted) : history.issued.Nodup := by
  induction history with
  | nil => exact List.nodup_nil
  | cons deed earlier inductionHypothesis =>
    cases deed with
    | lent block =>
      obtain ⟨before, fresh⟩ := unrepeated
      refine List.nodup_cons.mpr ⟨fun repeated => ?_, inductionHypothesis before accounted⟩
      have issued := (mem_issued_iff earlier block.handle).mp repeated
      rw [← current_eq earlier before] at issued
      exact (latest?_eq_none_iff earlier accounted block.handle).mp fresh issued
    | returned block => exact inductionHypothesis unrepeated accounted.1
    | cleared => exact unrepeated.elim

/-- Nothing happens to a handle after its block came back. -/
theorem latest?_of_returned (history : History) (unrepeated : history.Unrepeated)
    (accounted : history.Accounted) (block : Block) (member : .returned block ∈ history) :
    history.latest? block.handle = some (.returned block) := by
  induction history with
  | nil => cases member
  | cons deed earlier inductionHypothesis =>
    cases deed with
    | lent other =>
      have older := inductionHypothesis unrepeated.1 accounted
        ((List.mem_cons.mp member).resolve_left nofun)
      have different : other.handle ≠ block.handle := by
        intro same
        have fresh := unrepeated.2
        rw [same, older] at fresh
        cases fresh
      rw [latest?_lent_other _ _ _ different, older]
    | returned other =>
      rcases List.mem_cons.mp member with equal | older
      · cases equal
        exact latest?_returned_self _ _
      · have stays := inductionHypothesis unrepeated accounted.1 older
        have different : other.handle ≠ block.handle := by
          intro same
          have lent := accounted.2
          rw [same, stays] at lent
          cases lent
        rw [latest?_returned_other _ _ _ different, stays]
    | cleared => exact unrepeated.elim

end Unrepeated

end History

end Allotment
