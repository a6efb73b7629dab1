/-
The verdict of a history on a release: what happened to the handle last decides. The
allocators do not keep histories, so the verdict is what their checks of a release are
compared with; each of its answers is told apart by the latest deed about the handle.
-/

import Allotment.Outcome.Refusal
import Allotment.Proofs.Lending.History

namespace Allotment

/-- The verdict on a release under the current epoch: what happened to the handle last decides. -/
def History.verdict (history : History) (handle : Handle) (size : Nat) : Except Refusal Unit :=
  match history.latest? handle with
  | some (.lent block) =>
    if block.size = size then .ok () else .error (.sizeMismatch handle block.size size)
  | some (.returned _) => .error (.doubleFree handle)
  | _ => .error (.foreignHandle handle)

namespace History

variable (history : History) (handle : Handle) (size : Nat)

/-- What a verdict can be, with the latest deed that it was given for. -/
theorem verdict_cases :
    (∃ issued, history.latest? handle = some (.lent ⟨handle, issued⟩) ∧
      history.verdict handle size =
        if issued = size then .ok () else .error (.sizeMismatch handle issued size)) ∨
    (∃ issued, history.latest? handle = some (.returned ⟨handle, issued⟩) ∧
      history.verdict handle size = .error (.doubleFree handle)) ∨
    (history.latest? handle = none ∧
      history.verdict handle size = .error (.foreignHandle handle)) := by
  unfold verdict
  cases latest : history.latest? handle with
  | none => exact Or.inr (Or.inr ⟨rfl, rfl⟩)
  | some deed =>
    have names := history.names_of_latest? handle deed latest
    cases deed with
    | lent block =>
      cases names
      exact Or.inl ⟨block.size, rfl, rfl⟩
    | returned block =>
      cases names
      exact Or.inr (Or.inl ⟨block.size, rfl, rfl⟩)
    | cleared => cases names

theorem verdict_ok_iff :
    history.verdict handle size = .ok () ↔
      history.latest? handle = some (.lent ⟨handle, size⟩) := by
  rcases history.verdict_cases handle size with ⟨issued, latest, verdict⟩ |
    ⟨issued, latest, verdict⟩ | ⟨latest, verdict⟩
  · rw [latest, verdict]
    by_cases same : issued = size
    · simp [same]
    · simp [same]
  · simp [latest, verdict]
  · simp [latest, verdict]

theorem verdict_sizeMismatch_iff (expected : Nat) :
    history.verdict handle size = .error (.sizeMismatch handle expected size) ↔
      expected ≠ size ∧ history.latest? handle = some (.lent ⟨handle, expected⟩) := by
  rcases history.verdict_cases handle size with ⟨issued, latest, verdict⟩ |
    ⟨issued, latest, verdict⟩ | ⟨latest, verdict⟩
  · rw [latest, verdict]
    by_cases same : issued = size
    · subst same
      simp +contextual [eq_comm]
    · simp only [if_neg same, Except.error.injEq, Refusal.sizeMismatch.injEq, Option.some.injEq,
        Deed.lent.injEq, Block.mk.injEq, true_and, and_true]
      exact ⟨fun equal => ⟨equal ▸ same, equal⟩, fun parts => parts.2⟩
  · simp [latest, verdict]
  · simp [latest, verdict]

theorem verdict_doubleFree_iff :
    history.verdict handle size = .error (.doubleFree handle) ↔
      ∃ issued, history.latest? handle = some (.returned ⟨handle, issued⟩) := by
  rcases history.verdict_cases handle size with ⟨issued, latest, verdict⟩ |
    ⟨issued, latest, verdict⟩ | ⟨latest, verdict⟩
  · rw [latest, verdict]
    split <;> simp
  · simp [latest, verdict]
  · simp [latest, verdict]

theorem verdict_foreignHandle_iff :
    history.verdict handle size = .error (.foreignHandle handle) ↔
      history.latest? handle = none := by
  rcases history.verdict_cases handle size with ⟨issued, latest, verdict⟩ |
    ⟨issued, latest, verdict⟩ | ⟨latest, verdict⟩
  · rw [latest, verdict]
    split <;> simp
  · simp [latest, verdict]
  · simp [latest, verdict]

end History

end Allotment
