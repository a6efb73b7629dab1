/-
Epochs as a history tells them. A history has come to the epoch that counts its resets, and
where every handle bears the epoch under which it was lent, handles from before a reset differ
from all handles from after it. Epochs are counted in 32 bits, so this is so only as long as
there were fewer resets than epochs.
-/

import Allotment.Proofs.Lending.History

namespace Allotment

namespace History

/-- How many resets there were. -/
def resets (history : History) : Nat :=
  history.count .cleared

/-- The epoch that a history has come to. -/
def epoch (history : History) : UInt32 :=
  UInt32.ofNat history.resets

/-- Every handle bears the epoch under which it was lent. -/
def Dated : History → Prop
  | [] => True
  | .lent block :: earlier => Dated earlier ∧ block.handle.epoch = epoch earlier
  | .returned _ :: earlier => Dated earlier
  | .cleared :: earlier => Dated earlier

/-- The number of resets after one more deed. -/
theorem resets_cons (deed : Deed) (earlier : History) :
    resets (deed :: earlier) = earlier.resets + if deed = .cleared then 1 else 0 := by
  rw [resets, List.count_cons]
  simp only [beq_iff_eq]
  rfl

@[simp] theorem epoch_lent (block : Block) (earlier : History) :
    epoch (.lent block :: earlier) = earlier.epoch :=
  congrArg UInt32.ofNat (resets_cons _ _)

@[simp] theorem epoch_returned (block : Block) (earlier : History) :
    epoch (.returned block :: earlier) = earlier.epoch :=
  congrArg UInt32.ofNat (resets_cons _ _)

@[simp] theorem epoch_cleared (earlier : History) :
    epoch (.cleared :: earlier) = earlier.epoch + 1 := by
  rw [epoch, resets_cons, if_pos rfl, UInt32.ofNat_add]
  rfl

theorem resets_append (newer older : History) :
    resets (newer ++ older) = resets newer + resets older :=
  List.count_append

theorem resets_le_append (newer older : History) : resets older ≤ resets (newer ++ older) :=
  Nat.le.intro ((Nat.add_comm _ _).trans (resets_append newer older).symm)

theorem Dated.of_append (newer older : History) (dated : Dated (newer ++ older)) :
    Dated older := by
  induction newer with
  | nil => exact dated
  | cons deed rest inductionHypothesis =>
    cases deed with
    | lent block => exact inductionHypothesis dated.1
    | returned block => exact inductionHypothesis dated
    | cleared => exact inductionHypothesis dated

/-- A handle bears the number of the resets before it was lent. -/
theorem Dated.exists_resets {history : History} (dated : history.Dated) (block : Block)
    (lent : .lent block ∈ history) :
    ∃ count ≤ history.resets, block.handle.epoch = UInt32.ofNat count := by
  obtain ⟨newer, older, rfl⟩ := List.append_of_mem lent
  refine ⟨resets older, ?_, (Dated.of_append newer _ dated).2⟩
  rw [resets_append, resets_cons]
  omega

/-- A handle from before a reset does not bear the epoch that the history has come to. -/
theorem Dated.epoch_ne {newer older : History} (dated : Dated (newer ++ .cleared :: older))
    (few : resets (newer ++ .cleared :: older) < UInt32.size) (block : Block)
    (lent : .lent block ∈ older) :
    block.handle.epoch ≠ epoch (newer ++ .cleared :: older) := by
  have datedOlder : Dated older := Dated.of_append newer (.cleared :: older) dated
  obtain ⟨count, most, bears⟩ := datedOlder.exists_resets block lent
  have sum : resets (newer ++ .cleared :: older) = resets newer + (resets older + 1) := by
    rw [resets_append, resets_cons, if_pos rfl]
  rw [bears, epoch]
  intro same
  have small : count < UInt32.size := by omega
  have equal := congrArg UInt32.toNat same
  rw [UInt32.toNat_ofNat_of_lt' small, UInt32.toNat_ofNat_of_lt' few] at equal
  omega

/-- A handle from before a reset is not lent after it. -/
theorem Dated.not_lent_again {newer older : History}
    (dated : Dated (newer ++ .cleared :: older))
    (few : resets (newer ++ .cleared :: older) < UInt32.size) (handle : Handle) (first second : Nat)
    (before : .lent ⟨handle, first⟩ ∈ older) : .lent ⟨handle, second⟩ ∉ newer := by
  intro after
  obtain ⟨latest, between, rfl⟩ := List.append_of_mem after
  rw [List.append_assoc] at dated few
  have datedThen : Dated (.lent ⟨handle, second⟩ :: (between ++ .cleared :: older)) :=
    Dated.of_append latest _ dated
  have fewThen : resets (between ++ .cleared :: older) < UInt32.size := by
    rw [resets_append, List.cons_append, resets_cons] at few
    omega
  exact datedThen.1.epoch_ne fewThen ⟨handle, first⟩ before datedThen.2

end History

end Allotment
