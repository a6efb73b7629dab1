/-
The leak checker as a lender, around an allocator that is one. Its record holds the
blocks that the inner allocator has on loan, and a block that is lent is never in the
record already, so the record and the inner allocator cannot fall out of step.
-/

import Allotment.Audit.LeakChecker
import Allotment.Proofs.Audit.Index
import Allotment.Proofs.Lending.Custody

namespace Allotment

namespace LeakChecker

variable {σ : Type}

/-- The record lets a release through exactly if it holds the block, at that size. -/
theorem checkRelease_eq_ok_iff (checker : LeakChecker σ) (handle : Handle) (size : Nat) :
    checker.checkRelease handle size = .ok () ↔
      size ≠ 0 ∧ checker.loans.size? handle = some size := by
  unfold checkRelease
  by_cases none : size = 0
  · rw [if_pos none]
    exact ⟨nofun, fun parts => absurd none parts.1⟩
  rw [if_neg none]
  cases recorded : checker.loans.size? handle with
  | none =>
    simp only
    split <;> simp
  | some expected =>
    by_cases same : expected = size
    · simp [same, none]
    · simp [same]

/-! ### Forwarding -/

variable [Allocator σ]

/-- A block that the allocator inside lends is lent and recorded. -/
theorem allocate_of_inner (checker : LeakChecker σ) (memory : Memory) (size : Nat)
    (handle : Handle) (inner : σ) (events : List Event)
    (granted : Allocator.allocate memory checker.inner size = .done (.ok handle) inner events) :
    checker.allocate memory size = .done (.ok handle) (checker.lent inner ⟨handle, size⟩)
      (events ++ checker.lentEvents ⟨handle, size⟩) := by
  rw [LeakChecker.allocate, granted]

/-- A request is passed on, and a block that is lent is recorded. -/
theorem allocate_ok (memory : Memory) (before after : LeakChecker σ) (size : Nat)
    (handle : Handle) (events : List Event)
    (granted : before.allocate memory size = .done (.ok handle) after events) :
    ∃ inner logged, Allocator.allocate memory before.inner size = .done (.ok handle) inner logged ∧
      after = before.lent inner ⟨handle, size⟩ := by
  unfold allocate at granted
  split at granted
  · cases granted
  · cases granted
  · next found =>
    cases granted
    exact ⟨_, _, found, rfl⟩

theorem allocate_error (memory : Memory) (before after : LeakChecker σ) (size : Nat)
    (cause : Refusal) (events : List Event)
    (refused : before.allocate memory size = .done (.error cause) after events) :
    ∃ inner, Allocator.allocate memory before.inner size = .done (.error cause) inner events ∧
      after = { before with inner := inner } := by
  unfold allocate at refused
  split at refused
  · cases refused
  · next found =>
    cases refused
    exact ⟨_, found, rfl⟩
  · cases refused

/-- A release that is accepted was of a recorded loan, at its size, and was passed on. -/
theorem tryDeallocate_ok (before after : LeakChecker σ) (handle : Handle) (size : Nat)
    (events : List Event)
    (granted : before.tryDeallocate handle size = .done (.ok ()) after events) :
    before.loans.size? handle = some size ∧
      ∃ inner, Allocator.tryDeallocate before.inner handle size = .done (.ok ()) inner events ∧
        after = before.returned inner handle := by
  unfold tryDeallocate at granted
  split at granted
  · cases granted
  · next passed =>
    split at granted
    · cases granted
    · cases granted
    · next found =>
      cases granted
      exact ⟨((before.checkRelease_eq_ok_iff handle size).mp passed).2, _, found, rfl⟩

/-- A release that is refused changed nothing, or it was passed on and refused. -/
theorem tryDeallocate_error (before after : LeakChecker σ) (handle : Handle) (size : Nat)
    (cause : Refusal) (events : List Event)
    (refused : before.tryDeallocate handle size = .done (.error cause) after events) :
    after = before ∨
      ∃ inner, Allocator.tryDeallocate before.inner handle size =
          .done (.error cause) inner events ∧
        after = { before with inner := inner } := by
  unfold tryDeallocate at refused
  split at refused
  · cases refused
    exact Or.inl rfl
  · split at refused
    · cases refused
    · next found =>
      cases refused
      exact Or.inr ⟨_, found, rfl⟩
    · cases refused

/-- A write is passed on. -/
theorem store_eq (checker : LeakChecker σ) (handle : Handle) (size : Nat) (patch : Patch) :
    Allocator.store checker handle size patch =
      { checker with inner := Allocator.store checker.inner handle size patch } := by
  show (checker.store? handle size patch).getD checker =
    { checker with inner := (Allocator.store? checker.inner handle size patch).getD checker.inner }
  unfold store?
  cases Allocator.store? checker.inner handle size patch with
  | none => rfl
  | some stored => rfl

/-! ### The laws -/

variable [Recycler σ]

instance : Recycler (LeakChecker σ) where
  recycles checker size := Recycler.recycles checker.inner size

variable [Lender σ]

/-- The inner allocator has exactly the recorded blocks on loan. -/
def Lends (checker : LeakChecker σ) (loans : List Block) : Prop :=
  Lender.Lends checker.inner loans ∧ checker.loans.Lists loans checker.total

instance : Lender (LeakChecker σ) where
  Lends := Lends
  Named checker := Lender.Named checker.inner
  named_of_allocate memory before after size answer events done named := by
    cases answer with
    | ok handle =>
      obtain ⟨inner, logged, found, rfl⟩ := allocate_ok memory before after size handle events done
      exact Lender.named_of_allocate memory _ _ size _ logged found named
    | error cause =>
      obtain ⟨inner, found, rfl⟩ := allocate_error memory before after size cause events done
      exact Lender.named_of_allocate memory _ _ size _ events found named
  named_of_tryDeallocate before after handle size answer events done named := by
    cases answer with
    | ok _ =>
      obtain ⟨_, inner, found, rfl⟩ := tryDeallocate_ok before after handle size events done
      exact Lender.named_of_tryDeallocate _ _ handle size _ events found named
    | error cause =>
      rcases tryDeallocate_error before after handle size cause events done with
        rfl | ⟨inner, found, rfl⟩
      · exact named
      · exact Lender.named_of_tryDeallocate _ _ handle size _ events found named
  named_of_store checker handle size patch named := by
    rw [store_eq] at named
    exact Lender.named_of_store checker.inner handle size patch named
  distinct checker loans lends named := Lender.distinct checker.inner loans lends.1 named
  lent memory before after size handle events loans lends named granted := by
    obtain ⟨lendsInner, lists⟩ := lends
    obtain ⟨inner, logged, found, rfl⟩ := allocate_ok memory before after size handle events granted
    obtain ⟨lendsAfter, undisturbed, words⟩ :=
      Lender.lent memory _ _ size handle logged _ lendsInner named found
    have distinct := Lender.distinct inner _ lendsAfter named
    rw [List.map_cons, List.nodup_cons] at distinct
    refine ⟨⟨lendsAfter, ?_⟩, undisturbed, words⟩
    have added := LoanBook.record_eq_cons loans ⟨handle, size⟩ fun other member same =>
      distinct.1 (same ▸ List.mem_map_of_mem member)
    exact added ▸ lists.record ⟨handle, size⟩
  declined memory before after size cause events loans lends refused := by
    obtain ⟨inner, found, rfl⟩ := allocate_error memory before after size cause events refused
    rw [Lender.declined memory _ _ size cause events loans lends.1 found]
  returned before after handle size events loans lends named granted := by
    obtain ⟨lendsInner, lists⟩ := lends
    obtain ⟨_, inner, found, rfl⟩ := tryDeallocate_ok before after handle size events granted
    have namedBefore := Lender.named_of_tryDeallocate _ _ handle size _ events found named
    have distinct := Lender.distinct before.inner _ lendsInner namedBefore
    obtain ⟨member, lendsAfter, undisturbed⟩ :=
      Lender.returned _ _ handle size events _ lendsInner named found
    refine ⟨member, ⟨lendsAfter, ?_⟩, undisturbed⟩
    exact LoanBook.erase_eq_erase loans distinct ⟨handle, size⟩ member ▸ lists.erase handle
  rejected before after handle size cause events loans lends refused := by
    rcases tryDeallocate_error before after handle size cause events refused with
      rfl | ⟨inner, found, rfl⟩
    · rfl
    · rw [Lender.rejected _ _ handle size cause events loans lends.1 found]
  written checker loans block size patch lends named member inside := by
    rw [store_eq]
    obtain ⟨lendsAfter, undisturbed, overwritten⟩ :=
      Lender.written checker.inner loans block size patch lends.1 named member inside
    exact ⟨⟨lendsAfter, lends.2⟩, undisturbed, overwritten⟩

/-- A checker around an allocator that lends nothing yet lends nothing yet. -/
theorem lends_around (inner : σ) (lends : Lender.Lends inner []) : Lends (around inner) [] :=
  ⟨lends, LoanIndex.lists_nil 0⟩

end LeakChecker

end Allotment
