/-
Histories: the blocks an allocator lent, took back and gave up in a reset, the latest
deed first. A history says by itself which blocks are on loan and which wait for
reuse, so what an allocator keeps in its lists and counters can be compared with it.

The latest deed about a handle tells its standing. Where only loans come back, there
is one exactly if the handle was lent since the last reset.
-/

import Allotment.Proofs.Block.Sharing
import Mathlib.Data.List.Basic

namespace Allotment

/-- What happened to a block, or to all of them. -/
inductive Deed where
  | lent (block : Block)
  | returned (block : Block)
  | cleared
deriving DecidableEq

/-- The deed is about a handle. -/
def Deed.Names (handle : Handle) : Deed → Prop
  | lent block => block.handle = handle
  | returned block => block.handle = handle
  | cleared => False

instance (handle : Handle) : DecidablePred (Deed.Names handle)
  | .lent block => inferInstanceAs (Decidable (block.handle = handle))
  | .returned block => inferInstanceAs (Decidable (block.handle = handle))
  | .cleared => inferInstanceAs (Decidable False)

/-- What happened, the latest deed first. -/
abbrev History := List Deed

namespace History

/-! ### What a history says -/

/-- What happened since the last reset. -/
def current : History → History
  | [] => []
  | .lent block :: earlier => .lent block :: current earlier
  | .returned block :: earlier => .returned block :: current earlier
  | .cleared :: _ => []

/-- The blocks on loan, the latest loan first. -/
def loans : History → List Block
  | [] => []
  | .lent block :: earlier => block :: loans earlier
  | .returned block :: earlier => (loans earlier).erase block
  | .cleared :: _ => []

/-- The blocks that came back and wait for reuse, the latest return first. -/
def shelf : History → List Block
  | [] => []
  | .lent block :: earlier => (shelf earlier).erase block
  | .returned block :: earlier => block :: shelf earlier
  | .cleared :: _ => []

/-- The handle was lent since the last reset, at some size. -/
def Issued (history : History) (handle : Handle) : Prop :=
  ∃ size, .lent ⟨handle, size⟩ ∈ history.current

/-- The latest deed since the last reset that is about the handle. -/
def latest? (history : History) (handle : Handle) : Option Deed :=
  history.current.find? fun deed => deed.Names handle

/-- Since the last reset a block came back only when its loan was the latest deed about its
handle. -/
def Accounted : History → Prop
  | [] => True
  | .lent _ :: earlier => Accounted earlier
  | .returned block :: earlier =>
    Accounted earlier ∧ latest? earlier block.handle = some (.lent block)
  | .cleared :: _ => True

/-! ### The latest deed -/

theorem latest?_lent_self (history : History) (block : Block) :
    latest? (.lent block :: history) block.handle = some (.lent block) :=
  List.find?_cons_of_pos (decide_eq_true rfl)

theorem latest?_returned_self (history : History) (block : Block) :
    latest? (.returned block :: history) block.handle = some (.returned block) :=
  List.find?_cons_of_pos (decide_eq_true rfl)

theorem latest?_lent_other (history : History) (block : Block) (handle : Handle)
    (other : block.handle ≠ handle) :
    latest? (.lent block :: history) handle = history.latest? handle :=
  List.find?_cons_of_neg fun names => other (of_decide_eq_true names)

theorem latest?_returned_other (history : History) (block : Block) (handle : Handle)
    (other : block.handle ≠ handle) :
    latest? (.returned block :: history) handle = history.latest? handle :=
  List.find?_cons_of_neg fun names => other (of_decide_eq_true names)

/-- The latest deed about a handle is one of its deeds. -/
theorem names_of_latest? (history : History) (handle : Handle) (deed : Deed)
    (found : history.latest? handle = some deed) : deed.Names handle := by
  have hit := List.find?_some found
  exact of_decide_eq_true hit

/-! ### Blocks that wait -/

/-- A block that came back last waits. -/
theorem mem_shelf_of_latest? (history : History) (block : Block)
    (found : history.latest? block.handle = some (.returned block)) :
    block ∈ history.shelf := by
  induction history with
  | nil => cases found
  | cons deed earlier inductionHypothesis =>
    cases deed with
    | lent other =>
      by_cases same : other.handle = block.handle
      · rw [← same, latest?_lent_self] at found
        cases found
      · rw [latest?_lent_other _ _ _ same] at found
        have different : block ≠ other := fun equal => same (by rw [equal])
        exact (List.mem_erase_of_ne different).mpr (inductionHypothesis found)
    | returned other =>
      by_cases same : other.handle = block.handle
      · rw [← same, latest?_returned_self] at found
        cases found
        exact List.mem_cons_self
      · rw [latest?_returned_other _ _ _ same] at found
        exact List.mem_cons_of_mem _ (inductionHypothesis found)
    | cleared => cases found

/-- There is a latest deed about the handle of a block that waits. -/
theorem latest?_ne_none_of_mem_shelf (history : History) (block : Block)
    (member : block ∈ history.shelf) : history.latest? block.handle ≠ none := by
  induction history with
  | nil => cases member
  | cons deed earlier inductionHypothesis =>
    cases deed with
    | lent other =>
      by_cases same : other.handle = block.handle
      · rw [← same, latest?_lent_self]
        exact Option.some_ne_none _
      · rw [latest?_lent_other _ _ _ same]
        exact inductionHypothesis (List.mem_of_mem_erase member)
    | returned other =>
      by_cases same : other.handle = block.handle
      · rw [← same, latest?_returned_self]
        exact Option.some_ne_none _
      · rw [latest?_returned_other _ _ _ same]
        rcases List.mem_cons.mp member with rfl | older
        · exact absurd rfl same
        · exact inductionHypothesis older
    | cleared => cases member

/-! ### Blocks on loan -/

/-- A block that was lent last is on loan. -/
theorem mem_loans_of_latest? (history : History) (block : Block)
    (found : history.latest? block.handle = some (.lent block)) : block ∈ history.loans := by
  induction history with
  | nil => cases found
  | cons deed earlier inductionHypothesis =>
    cases deed with
    | lent other =>
      by_cases same : other.handle = block.handle
      · rw [← same, latest?_lent_self] at found
        cases found
        exact List.mem_cons_self
      · rw [latest?_lent_other _ _ _ same] at found
        exact List.mem_cons_of_mem _ (inductionHypothesis found)
    | returned other =>
      by_cases same : other.handle = block.handle
      · rw [← same, latest?_returned_self] at found
        cases found
      · rw [latest?_returned_other _ _ _ same] at found
        have different : block ≠ other := fun equal => same (by rw [equal])
        exact (List.mem_erase_of_ne different).mpr (inductionHypothesis found)
    | cleared => cases found

/-! ### All blocks since the last reset -/

section Moved

variable (history : History) (block : Block)

/-- A loan of a block that waits only moves it. -/
theorem perm_of_lent (waiting : block ∈ history.shelf) :
    (loans (.lent block :: history) ++ shelf (.lent block :: history)).Perm
      (history.loans ++ history.shelf) :=
  List.perm_middle.symm.trans ((List.perm_cons_erase waiting).symm.append_left _)

/-- After a loan its block is among those on loan and those that wait, next to the ones that were
there before. -/
theorem mem_lent_iff (other : Block) :
    other ∈ loans (.lent block :: history) ++ shelf (.lent block :: history) ↔
      other = block ∨ other ∈ history.loans ++ history.shelf := by
  rw [List.mem_append, List.mem_append]
  by_cases same : other = block
  · exact ⟨fun _ => Or.inl same, fun _ => Or.inl (List.mem_cons.mpr (Or.inl same))⟩
  · rw [loans, shelf, List.mem_cons, List.mem_erase_of_ne same, or_assoc]

/-- A return of a block on loan only moves it. -/
theorem perm_of_returned (onLoan : block ∈ history.loans) :
    (loans (.returned block :: history) ++ shelf (.returned block :: history)).Perm
      (history.loans ++ history.shelf) :=
  List.perm_middle.trans ((List.perm_cons_erase onLoan).symm.append_right _)

end Moved

/-- A block that was lent since the last reset is on loan or waits. -/
theorem mem_of_lent (history : History) (block : Block)
    (lent : .lent block ∈ history.current) : block ∈ history.loans ++ history.shelf := by
  induction history with
  | nil => cases lent
  | cons deed earlier inductionHypothesis =>
    cases deed with
    | lent other =>
      by_cases same : block = other
      · exact List.mem_append_left _ (same ▸ List.mem_cons_self)
      · have older := (List.mem_cons.mp lent).resolve_left fun equal => same (Deed.lent.inj equal)
        rcases List.mem_append.mp (inductionHypothesis older) with onLoan | waiting
        · exact List.mem_append_left _ (List.mem_cons_of_mem _ onLoan)
        · exact List.mem_append_right _ ((List.mem_erase_of_ne same).mpr waiting)
    | returned other =>
      have older := (List.mem_cons.mp lent).resolve_left nofun
      by_cases same : block = other
      · exact List.mem_append_right _ (same ▸ List.mem_cons_self)
      · rcases List.mem_append.mp (inductionHypothesis older) with onLoan | waiting
        · exact List.mem_append_left _ ((List.mem_erase_of_ne same).mpr onLoan)
        · exact List.mem_append_right _ (List.mem_cons_of_mem _ waiting)
    | cleared => cases lent

/-! ### Handles that were lent -/

/-- There is a latest deed about a handle exactly when it was lent. -/
theorem latest?_eq_none_iff (history : History) (accounted : history.Accounted)
    (handle : Handle) : history.latest? handle = none ↔ ¬ history.Issued handle := by
  induction history with
  | nil =>
    refine ⟨fun _ => ?_, fun _ => rfl⟩
    rintro ⟨_, lent⟩
    cases lent
  | cons deed earlier inductionHypothesis =>
    cases deed with
    | lent block =>
      by_cases same : block.handle = handle
      · subst same
        rw [latest?_lent_self]
        exact ⟨nofun, fun never => absurd ⟨block.size, List.mem_cons_self⟩ never⟩
      · rw [latest?_lent_other _ _ _ same, inductionHypothesis accounted]
        refine not_congr ⟨fun ⟨size, lent⟩ => ⟨size, List.mem_cons_of_mem _ lent⟩, ?_⟩
        rintro ⟨size, lent⟩
        rcases List.mem_cons.mp lent with equal | older
        · cases equal
          exact absurd rfl same
        · exact ⟨size, older⟩
    | returned block =>
      have issued : Issued (.returned block :: earlier) handle ↔ Issued earlier handle := by
        refine ⟨?_, fun ⟨size, lent⟩ => ⟨size, List.mem_cons_of_mem _ lent⟩⟩
        rintro ⟨size, lent⟩
        rcases List.mem_cons.mp lent with equal | older
        · cases equal
        · exact ⟨size, older⟩
      rw [issued, ← inductionHypothesis accounted.1]
      by_cases same : block.handle = handle
      · subst same
        rw [latest?_returned_self, accounted.2]
        exact ⟨nofun, nofun⟩
      · rw [latest?_returned_other _ _ _ same]
    | cleared =>
      refine ⟨fun _ => ?_, fun _ => rfl⟩
      rintro ⟨_, lent⟩
      cases lent

end History

end Allotment
